/-!
# Similar words

How much of two words is the same, and which known words are close to one that is not known.  The
longest block that both share is set aside, and what stands before it and after it is compared in the
same way; the characters of all blocks are what the words have in common.
-/

namespace AgentLint.Text

/-! ## 1. Shared blocks -/

/-- How many characters two texts start with alike. -/
def sharedStart : List Char → List Char → Nat
  | a :: as, b :: bs => if a = b then sharedStart as bs + 1 else 0
  | _, _ => 0

/-- A block that two texts share. -/
structure Block where
  /-- Where it starts in the first. -/
  left : Nat
  /-- Where it starts in the second. -/
  right : Nat
  /-- How long it is. -/
  size : Nat
  deriving DecidableEq, Repr

/-- The longest block of two texts; of equal ones, the first in the first text, then in the second. -/
def longestBlock (as bs : List Char) : Block :=
  (List.range as.length).foldl (fun best i =>
    (List.range bs.length).foldl (fun best j =>
      let n := sharedStart (as.drop i) (bs.drop j)
      if best.size < n then ⟨i, j, n⟩ else best) best) ⟨0, 0, 0⟩

/-- How many characters the blocks of two texts have; `fuel` bounds how often a text is divided. -/
def sharedWithin : (fuel : Nat) → List Char → List Char → Nat
  | 0, _, _ => 0
  | fuel + 1, as, bs =>
    let b := longestBlock as bs
    if b.size = 0 then 0
    else
      sharedWithin fuel (as.take b.left) (bs.take b.right) + b.size +
        sharedWithin fuel (as.drop (b.left + b.size)) (bs.drop (b.right + b.size))

/-- How many characters two words have in common. -/
def shared (s t : String) : Nat := sharedWithin s.length s.toList t.toList

/-! ## 2. Close words -/

/-- Whether three fifths of the characters of two words, or more, are common to both.  Words of very
different lengths are not compared. -/
def isClose (s t : String) : Bool :=
  let total := 3 * (s.length + t.length)
  total ≤ 10 * min s.length t.length && total ≤ 10 * shared s t

/-- Whether a known word is at least as close to a word as another known one; of two that are equally
close, the one that is last by its letters counts as closer. -/
def isCloser (word s t : String) : Bool :=
  let ms := shared s word * (t.length + word.length)
  let mt := shared t word * (s.length + word.length)
  mt < ms || (mt = ms && t ≤ s)

/-- The known words that are close to a word, three at most, by their letters. -/
def suggestions (known : List String) (word : String) : List String :=
  (((known.filter (isClose · word)).mergeSort (isCloser word)).take 3).mergeSort (· ≤ ·)

end AgentLint.Text
