import AgentLint.Proofs.Cache.Ledger
import AgentLint.Proofs.Cache.Material
import AgentLint.Proofs.Resolver.Alike

/-!
# What a fingerprint tells apart

The material of a fingerprint is a JSON text of four fields, and each field tells where it ends.  So two materials that
are the same agree field by field (`parts_of_material`): in the quoted version and name, in the files with their times
of change, and in the text of the configuration.  If SHA-256 tells the two materials apart, the fingerprints do as well.

A version, a name or a path is known by its quoted form, unless the halves of a character stand one behind the other in
it.  A configuration is known by its text up to what the text leaves out: keys that are no texts are written like the
texts that show them, and entries kept as pairs like lists.  Configurations that are plain are known by their text up to
the order of maps, and no question to a resolver tells two of them apart then, unless a model looks at that order
(`fingerprint_distinguishes`).  What is not plain is not told apart (`number_key_not_distinguished`), and neither is the
order that a model looks at (`order_not_distinguished`).
-/

namespace AgentLint.Cache

open Json

/-! ## 1. The four fields -/

theorem isItem_fieldText {key text : String} (h : IsItem text.toList) : IsItem (fieldText key text).toList :=
  isItem_field h

theorem fieldText_injective {key s t : String} (h : fieldText key s = fieldText key t) : s = t := by
  have hchars := congrArg String.toList h
  simp only [fieldText, String.toList_append] at hchars
  exact String.toList_injective (List.append_cancel_left hchars)

/-- **Materials that are the same agree field by field.** -/
theorem parts_of_material {c c' : Cache} {h h' : Host} {name name' : String} {config config' : Option Config}
    {files files' : List String} {m : String} (hm : c.material h name config files = .ok m)
    (hm' : c'.material h' name' config' files' = .ok m) :
    quote c.version = quote c'.version ∧ quote name = quote name' ∧
      (∃ text, line.writeAt 1 (configValue config) = .ok text ∧ line.writeAt 1 (configValue config') = .ok text) ∧
      ∃ xs ys : List (String × Option Int), xs.map Prod.fst = Order.sortedDistinct files ∧
        ys.map Prod.fst = Order.sortedDistinct files' ∧ (∀ x ∈ xs, h.mtime? x.1 = .ok x.2) ∧
        (∀ y ∈ ys, h'.mtime? y.1 = .ok y.2) ∧ itemsChars xs = itemsChars ys := by
  obtain ⟨xs, ct, ft, hfiles, hstamps, hct, hft, rfl⟩ := material_eq_ok hm
  obtain ⟨ys, ct', ft', hfiles', hstamps', hct', hft', heq⟩ := material_eq_ok hm'
  have hitems : ∀ {ct ft name version : String}, IsItem ct.toList → IsItem ft.toList →
      ∀ s ∈ [fieldText "config" ct, fieldText "files" ft, fieldText "validator" (quote name),
        fieldText "version" (quote version)], IsItem s.toList := by
    intro ct ft name version hct hft s hs
    simp only [List.mem_cons, List.not_mem_nil, or_false] at hs
    rcases hs with rfl | rfl | rfl | rfl
    · exact isItem_fieldText hct
    · exact isItem_fieldText hft
    · exact isItem_fieldText (isItem_quote name)
    · exact isItem_fieldText (isItem_quote version)
  have hchars := congrArg String.toList heq
  rw [show materialLayout = line from rfl] at hchars hct hct' hft hft'
  rw [toList_map, toList_map] at hchars
  have hfields := items_eq_of_wrap (.inr rfl) (hitems (isItem_writeAt _ _ _ hct) (isItem_writeAt _ _ _ hft))
    (hitems (isItem_writeAt _ _ _ hct') (isItem_writeAt _ _ _ hft')) hchars
  simp only [List.cons.injEq, and_true] at hfields
  obtain ⟨hconfig, hfile, hname, hversion⟩ := hfields
  obtain rfl := fieldText_injective hconfig
  obtain rfl := fieldText_injective hfile
  refine ⟨fieldText_injective hversion, fieldText_injective hname, ⟨ct, hct, hct'⟩, xs, ys, hfiles, hfiles', hstamps,
    hstamps', ?_⟩
  have hsame := (toList_writeAt_files hft).symm.trans (toList_writeAt_files hft')
  exact List.append_cancel_right (List.cons.inj hsame).2

/-! ## 2. What the fields tell -/

/-- Whether there is a configuration shows in its text, which opens a bracket. -/
theorem none_iff_of_text {config config' : Option Config} {text : String}
    (h : line.writeAt 1 (configValue config) = .ok text) (h' : line.writeAt 1 (configValue config') = .ok text) :
    config = none ↔ config' = none := by
  have hnone : line.writeAt 1 (configValue none) = .ok "null" := by rw [configValue, Layout.writeAt]
  have hsome : ∀ c : Config, line.writeAt 1 (configValue (some c)) ≠ .ok "null" := by
    intro c hc
    rw [configValue, Config.toValue_eq, Layout.writeAt, map_eq_ok_iff] at hc
    obtain ⟨ss, -, hss⟩ := hc
    have hchars := congrArg String.toList hss
    rw [toList_map] at hchars
    exact absurd (List.cons.inj hchars).1 (by decide)
  have hone : ∀ {config config' : Option Config}, line.writeAt 1 (configValue config) = .ok text →
      line.writeAt 1 (configValue config') = .ok text → config = none → config' = none := by
    rintro _ config' h h' rfl
    cases config' with
    | none => rfl
    | some c => exact absurd (h'.trans (h.symm.trans hnone)) (hsome c)
  exact ⟨hone h h', hone h' h⟩

/-- Files whose paths are known by their quoted form are told with their times of change. -/
theorem files_of_items {h h' : Host} {files files' : List String} {xs ys : List (String × Option Int)}
    (hxs : xs.map Prod.fst = Order.sortedDistinct files) (hys : ys.map Prod.fst = Order.sortedDistinct files')
    (hstamps : ∀ x ∈ xs, h.mtime? x.1 = .ok x.2) (hstamps' : ∀ y ∈ ys, h'.mtime? y.1 = .ok y.2)
    (hitems : itemsChars xs = itemsChars ys) (hwhole : ∀ p ∈ files, Text.Whole p)
    (hwhole' : ∀ p ∈ files', Text.Whole p) :
    (∀ p, p ∈ files ↔ p ∈ files') ∧ ∀ p ∈ files, ∃ stamp, h.mtime? p = .ok stamp ∧ h'.mtime? p = .ok stamp := by
  have hpath : ∀ {fs : List String} {zs : List (String × Option Int)}, zs.map Prod.fst = Order.sortedDistinct fs →
      ∀ p, p ∈ fs ↔ ∃ z ∈ zs, z.1 = p := by
    intro fs zs hzs p
    rw [← Order.mem_sortedDistinct, ← hzs, List.mem_map]
  have hx : ∀ x ∈ xs, Text.Whole x.1 := fun x hx => hwhole _ ((hpath hxs _).mpr ⟨x, hx, rfl⟩)
  have hy : ∀ y ∈ ys, Text.Whole y.1 := fun y hy => hwhole' _ ((hpath hys _).mpr ⟨y, hy, rfl⟩)
  have hends : itemsChars xs ++ [']'] = itemsChars ys ++ [']'] := by rw [hitems]
  obtain rfl := itemsChars_append_cancel hx hy hends
  refine ⟨fun p => (hpath hxs p).trans (hpath hys p).symm, fun p hp => ?_⟩
  obtain ⟨x, hx, rfl⟩ := (hpath hxs p).mp hp
  exact ⟨x.2, hstamps x hx, hstamps' x hx⟩

/-- Plain configurations with one text hold the same. -/
theorem alike_of_text {c d : Config} {text : String} (hc : c.toValue.isPlain = true) (hd : d.toValue.isPlain = true)
    (h : line.writeAt 1 (configValue (some c)) = .ok text) (h' : line.writeAt 1 (configValue (some d)) = .ok text) :
    c.Alike d := Config.alike_of_same hc hd (same_of_writeAt c.toValue hc d.toValue hd 1 1 text h h')

/-! ## 3. What a fingerprint tells apart -/

/-- **Fingerprints tell runs apart.**  Two that are the same are of one quoted version and one quoted name, which are
one version and one name unless halves of a character stand one behind the other in them; of the same files with the
same times of change, or absent; and of configurations with one text, or of none.  Configurations that are plain hold
the same then, the order of maps left out.  Where no model looks at that order, they give each rule at each path the
same severity and the same options, or fail to do so both. -/
theorem fingerprint_distinguishes {c c' : Cache} {h h' : Host} {name name' : String} {config config' : Option Config}
    {files files' : List String} {digest : String} (hc : c.digest = Sha256.hex) (hc' : c'.digest = Sha256.hex)
    (hno : ToldApart fun m => c.material h name config files = .ok m ∨ c'.material h' name' config' files' = .ok m)
    (hd : c.fingerprint h name config files = .ok digest)
    (hd' : c'.fingerprint h' name' config' files' = .ok digest) :
    quote c.version = quote c'.version ∧ quote name = quote name' ∧
      (Text.Whole c.version → Text.Whole c'.version → c.version = c'.version) ∧
      (Text.Whole name → Text.Whole name' → name = name') ∧
      ((∀ p ∈ files, Text.Whole p) → (∀ p ∈ files', Text.Whole p) → (∀ p, p ∈ files ↔ p ∈ files') ∧
        ∀ p ∈ files, ∃ stamp, h.mtime? p = .ok stamp ∧ h'.mtime? p = .ok stamp) ∧
      (config = none ↔ config' = none) ∧
      (∃ text, writeSorted (configValue config) = .ok text ∧ writeSorted (configValue config') = .ok text) ∧
      ∀ cfg cfg', config = some cfg → config' = some cfg' → cfg.toValue.isPlain = true →
        cfg'.toValue.isPlain = true → cfg.Alike cfg' ∧
          ∀ registry : Registry, registry.OrderBlind → ∀ rule path : String,
            Agree (· = ·)
              ((Resolver.severity rule path).run { config, registry, diagnostics := none }).1
              ((Resolver.severity rule path).run { config := config', registry, diagnostics := none }).1 ∧
            Agree SameAnswer
              ((Resolver.options rule path).run { config, registry, diagnostics := none }).1
              ((Resolver.options rule path).run { config := config', registry, diagnostics := none }).1 := by
  obtain ⟨m, hm, hhash⟩ := map_eq_ok_iff.mp hd
  obtain ⟨m', hm', hhash'⟩ := map_eq_ok_iff.mp hd'
  rw [hc] at hhash
  rw [hc'] at hhash'
  obtain rfl : m = m' := hno m m' (.inl hm) (.inr hm') (hhash.trans hhash'.symm)
  obtain ⟨hversion, hname, ⟨text, htext, htext'⟩, xs, ys, hxs, hys, hstamps, hstamps', hitems⟩ :=
    parts_of_material hm hm'
  refine ⟨hversion, hname, fun hw hw' => quote_injective_of_whole hw hw' hversion,
    fun hw hw' => quote_injective_of_whole hw hw' hname, files_of_items hxs hys hstamps hstamps' hitems,
    none_iff_of_text htext htext', ⟨text, (writeAt_level _ 0 1).trans htext, (writeAt_level _ 0 1).trans htext'⟩, ?_⟩
  rintro cfg cfg' rfl rfl hplain hplain'
  have halike := alike_of_text hplain hplain' htext htext'
  refine ⟨halike, fun registry hblind rule path => ?_⟩
  have hfresh : ∀ cfg : Config, Resolver.Sound (some cfg) registry { config := some cfg, registry, diagnostics := none } :=
    fun cfg => Resolver.sound_fresh (some cfg) registry none
  rw [((Resolver.answers_severity rule path).sound (hfresh cfg)).1,
    ((Resolver.answers_severity rule path).sound (hfresh cfg')).1,
    ((Resolver.answers_options rule path).sound (hfresh cfg)).1,
    ((Resolver.answers_options rule path).sound (hfresh cfg')).1]
  exact ⟨Resolver.agree_severityAt hblind halike rule path, Resolver.agree_optionsAt hblind halike rule path⟩

/-- A rule that nobody knows, with options. -/
def customConfig (os : Entries) : Config := { rules := [("custom", ⟨.warn, some os⟩)] }

/-- The text that the fingerprint of a run with such a configuration condenses, if the options are written so. -/
def customText (options : String) : String :=
  "\x7b\"config\": \x7b\"ignorePatterns\": [], \"maxWarnings\": null, \"overrides\": [], " ++
    "\"reportUnusedDisableDirectives\": true, \"rules\": \x7b\"custom\": \x7b\"options\": " ++ options ++
    ", \"severity\": \"warn\"\x7d\x7d\x7d, \"files\": [[\"g\", null]], \"validator\": \"v\", \"version\": \"1\"\x7d"

theorem parse_customConfig {source : String} (os : Entries) :
    Config.parse source (customConfig os).toValue = .ok (customConfig os) := by
  have hwell : (customConfig os).WellFormed := ⟨by simp [customConfig, Assoc.keys], nofun, nofun⟩
  have horder : (customConfig os).inOrder = customConfig os := by
    simp [customConfig, Config.inOrder, RuleSettings.inOrder]
  rw [Config.parse_writtenFields hwell, horder]

/-- Two caches on two hosts, and options in two orders: the fingerprints are the same, and so are files and options. -/
theorem fingerprint_distinguishes_custom :
    let one := customConfig [(.text "a", .int 1), (.text "b", .bool true)]
    let other := customConfig [(.text "b", .bool true), (.text "a", .int 1)]
    let text := customText "\x7b\"a\": 1, \"b\": true\x7d"
    let later : Host := { plainHost with now := 3 }
    (ToldApart fun m => (plainCache "c").material plainHost "v" (some one) ["g"] = .ok m ∨
        (plainCache "d").material later "v" (some other) ["g", "g"] = .ok m) ∧
      (plainCache "c").fingerprint plainHost "v" (some one) ["g"] = .ok (Sha256.hex text) ∧
      (plainCache "d").fingerprint later "v" (some other) ["g", "g"] = .ok (Sha256.hex text) ∧
      (∃ stamp, plainHost.mtime? "g" = .ok stamp ∧ later.mtime? "g" = .ok stamp) ∧
      ∀ rule path : String, Agree SameAnswer
        ((Resolver.options rule path).run { config := some one, registry := Builtin.registry, diagnostics := none }).1
        ((Resolver.options rule path).run
          { config := some other, registry := Builtin.registry, diagnostics := none }).1 := by
  intro one other text later
  have hseen : ((plainCache "c").material plainHost "v" (some one) ["g"]).toOption = some text ∧
      ((plainCache "d").material later "v" (some other) ["g", "g"]).toOption = some text ∧
      one.toValue.isPlain = true ∧ other.toValue.isPlain = true ∧ Text.Whole "g" := by
    decide +kernel
  obtain ⟨hone, hother, hplain, hplain', hwhole⟩ := hseen
  have hone := eq_ok_of_toOption hone
  have hother := eq_ok_of_toOption hother
  have hno : ToldApart fun m => (plainCache "c").material plainHost "v" (some one) ["g"] = .ok m ∨
      (plainCache "d").material later "v" (some other) ["g", "g"] = .ok m := by
    have hall : ∀ m, (plainCache "c").material plainHost "v" (some one) ["g"] = .ok m ∨
        (plainCache "d").material later "v" (some other) ["g", "g"] = .ok m → m = text := by
      rintro m (hm | hm)
      · exact Except.ok.inj (hm.symm.trans hone)
      · exact Except.ok.inj (hm.symm.trans hother)
    intro a b ha hb _
    rw [hall a ha, hall b hb]
  have hd : (plainCache "c").fingerprint plainHost "v" (some one) ["g"] = .ok (Sha256.hex text) := by
    rw [fingerprint, hone]
    rfl
  have hd' : (plainCache "d").fingerprint later "v" (some other) ["g", "g"] = .ok (Sha256.hex text) := by
    rw [fingerprint, hother]
    rfl
  obtain ⟨-, -, -, -, hfiles, -, -, hanswers⟩ := fingerprint_distinguishes rfl rfl hno hd hd'
  obtain ⟨-, hstamps⟩ := hfiles (by simpa using hwhole) (by simpa using hwhole)
  exact ⟨hno, hd, hd', hstamps "g" List.mem_cons_self,
    fun rule path => ((hanswers one other rfl rfl hplain hplain').2 _ Builtin.orderBlind rule path).2⟩

/-- **A number as a key is not told from the text that shows it.**  Both configurations can be read, and their
fingerprints are the same, but the rule has other options. -/
theorem number_key_not_distinguished :
    let keyed (key : Value) : Config := customConfig [(.text "m", .map [(key, .text "x")])]
    let options (key : Value) : Except Fault Entries :=
      ((Resolver.options "custom" "CLAUDE.md").run
        { config := some (keyed key), registry := [], diagnostics := none }).1
    let digest := Sha256.hex (customText "\x7b\"m\": \x7b\"1\": \"x\"\x7d\x7d")
    Config.parse "a.yml" (keyed (.int 1)).toValue = .ok (keyed (.int 1)) ∧
      Config.parse "b.yml" (keyed (.text "1")).toValue = .ok (keyed (.text "1")) ∧
      (plainCache "c").fingerprint plainHost "v" (some (keyed (.int 1))) ["g"] = .ok digest ∧
      (plainCache "c").fingerprint plainHost "v" (some (keyed (.text "1"))) ["g"] = .ok digest ∧
      ∃ os ps, options (.int 1) = .ok os ∧ options (.text "1") = .ok ps ∧
        Value.same (.map os) (.map ps) = false := by
  intro keyed options digest
  have hseen : ∀ key ∈ [Value.int 1, .text "1"],
      ((plainCache "c").material plainHost "v" (some (keyed key)) ["g"]).toOption =
        some (customText "\x7b\"m\": \x7b\"1\": \"x\"\x7d\x7d") := by
    decide +kernel
  have hdigest : ∀ key ∈ [Value.int 1, .text "1"],
      (plainCache "c").fingerprint plainHost "v" (some (keyed key)) ["g"] = .ok digest := by
    intro key hkey
    rw [fingerprint, eq_ok_of_toOption (hseen key hkey)]
    rfl
  exact ⟨parse_customConfig _, parse_customConfig _, hdigest _ (by simp), hdigest _ (by simp), _, _, rfl, rfl, rfl⟩

/-- The model of options that tells the first name that it is given. -/
def firstModel : OptionModel where
  check os := .ok (.ok ((os.take 1).map fun e => (.text "first", e.1)))
  defaults := .ok []

/-- A registry with the rule of these configurations, whose options are these. -/
def firstRegistry : Registry := Registry.empty.add
  { info := { id := "custom", name := "custom", description := "", category := .claudeMd, options := some firstModel }
    check := fun _ => pure () }

/-- **The order that a model looks at is not told apart.**  The fingerprints of these configurations are the same, but
the rule has other options. -/
theorem order_not_distinguished :
    let one := customConfig [(.text "a", .int 1), (.text "b", .bool true)]
    let other := customConfig [(.text "b", .bool true), (.text "a", .int 1)]
    let options (c : Config) : Except Fault Entries :=
      ((Resolver.options "custom" "CLAUDE.md").run
        { config := some c, registry := firstRegistry, diagnostics := none }).1
    (plainCache "c").material plainHost "v" (some one) ["g"] =
        (plainCache "c").material plainHost "v" (some other) ["g"] ∧
      options one = .ok [(.text "first", .text "a")] ∧ options other = .ok [(.text "first", .text "b")] := by
  intro one other options
  have hseen : ((plainCache "c").material plainHost "v" (some one) ["g"]).toOption =
        some (customText "\x7b\"a\": 1, \"b\": true\x7d") ∧
      ((plainCache "c").material plainHost "v" (some other) ["g"]).toOption =
        some (customText "\x7b\"a\": 1, \"b\": true\x7d") := by
    decide +kernel
  exact ⟨(eq_ok_of_toOption hseen.1).trans (eq_ok_of_toOption hseen.2).symm, rfl, rfl⟩

end AgentLint.Cache
