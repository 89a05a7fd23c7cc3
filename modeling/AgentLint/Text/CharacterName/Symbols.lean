import AgentLint.Text.CharacterName.Row

/-!
# Names of symbols

Punctuation, signs, arrows, operators, boxes, shapes, and the forms of wide and narrow print.
-/

namespace AgentLint.Text

/-- Punctuation, currency, letter-like signs, number forms and arrows. -/
def punctuationNames : List NameRow :=
  [⟨0x2000, "", ["EN QUAD|EM QUAD|EN SPACE|EM SPACE|THREE-PER-EM SPACE|FOUR-PER-EM SPACE",
     "SIX-PER-EM SPACE|FIGURE SPACE|PUNCTUATION SPACE|THIN SPACE|HAIR SPACE"]⟩,
   ⟨0x200B, "ZERO WIDTH ", ["SPACE|NON-JOINER|JOINER"]⟩,
   ⟨0x200E, "", ["LEFT-TO-RIGHT MARK|RIGHT-TO-LEFT MARK|HYPHEN|NON-BREAKING HYPHEN|FIGURE DASH",
     "EN DASH|EM DASH|HORIZONTAL BAR"]⟩,
   ⟨0x2016, "DOUBLE ", ["VERTICAL LINE|LOW LINE"]⟩,
   ⟨0x2018, "", ["LEFT SINGLE QUOTATION MARK|RIGHT SINGLE QUOTATION MARK"]⟩,
   ⟨0x201A, "SINGLE ", ["LOW-9 QUOTATION MARK|HIGH-REVERSED-9 QUOTATION MARK"]⟩,
   ⟨0x201C, "", ["LEFT DOUBLE QUOTATION MARK|RIGHT DOUBLE QUOTATION MARK"]⟩,
   ⟨0x201E, "DOUBLE ", ["LOW-9 QUOTATION MARK|HIGH-REVERSED-9 QUOTATION MARK"]⟩,
   ⟨0x2020, "", ["DAGGER|DOUBLE DAGGER|BULLET|TRIANGULAR BULLET|ONE DOT LEADER|TWO DOT LEADER",
     "HORIZONTAL ELLIPSIS|HYPHENATION POINT|LINE SEPARATOR|PARAGRAPH SEPARATOR",
     "LEFT-TO-RIGHT EMBEDDING|RIGHT-TO-LEFT EMBEDDING|POP DIRECTIONAL FORMATTING",
     "LEFT-TO-RIGHT OVERRIDE|RIGHT-TO-LEFT OVERRIDE|NARROW NO-BREAK SPACE"]⟩,
   ⟨0x2030, "PER ", ["MILLE SIGN|TEN THOUSAND SIGN"]⟩,
   ⟨0x2032, "", ["PRIME|DOUBLE PRIME|TRIPLE PRIME"]⟩,
   ⟨0x2035, "REVERSED ", ["PRIME|DOUBLE PRIME|TRIPLE PRIME"]⟩,
   ⟨0x2038, "", ["CARET"]⟩,
   ⟨0x2039, "SINGLE ", ["LEFT-POINTING ANGLE QUOTATION MARK|RIGHT-POINTING ANGLE QUOTATION MARK"]⟩,
   ⟨0x203B, "", ["REFERENCE MARK|DOUBLE EXCLAMATION MARK|INTERROBANG|OVERLINE|UNDERTIE|CHARACTER TIE",
     "CARET INSERTION POINT|ASTERISM|HYPHEN BULLET|FRACTION SLASH|LEFT SQUARE BRACKET WITH QUILL",
     "RIGHT SQUARE BRACKET WITH QUILL|DOUBLE QUESTION MARK|QUESTION EXCLAMATION MARK",
     "EXCLAMATION QUESTION MARK|TIRONIAN SIGN ET|REVERSED PILCROW SIGN"]⟩,
   ⟨0x204C, "BLACK ", ["LEFTWARDS BULLET|RIGHTWARDS BULLET"]⟩,
   ⟨0x204E, "", ["LOW ASTERISK|REVERSED SEMICOLON|CLOSE UP|TWO ASTERISKS ALIGNED VERTICALLY",
     "COMMERCIAL MINUS SIGN|SWUNG DASH|INVERTED UNDERTIE|FLOWER PUNCTUATION MARK",
     "THREE DOT PUNCTUATION|QUADRUPLE PRIME|FOUR DOT PUNCTUATION|FIVE DOT PUNCTUATION",
     "TWO DOT PUNCTUATION|FOUR DOT MARK|DOTTED CROSS|TRICOLON|VERTICAL FOUR DOTS",
     "MEDIUM MATHEMATICAL SPACE|WORD JOINER|FUNCTION APPLICATION"]⟩,
   ⟨0x2062, "INVISIBLE ", ["TIMES|SEPARATOR|PLUS"]⟩,
   ⟨0x2066, "", ["LEFT-TO-RIGHT ISOLATE|RIGHT-TO-LEFT ISOLATE|FIRST STRONG ISOLATE",
     "POP DIRECTIONAL ISOLATE|INHIBIT SYMMETRIC SWAPPING|ACTIVATE SYMMETRIC SWAPPING",
     "INHIBIT ARABIC FORM SHAPING|ACTIVATE ARABIC FORM SHAPING|NATIONAL DIGIT SHAPES",
     "NOMINAL DIGIT SHAPES"]⟩,
   ⟨0x2070, "SUPERSCRIPT ", ["ZERO|LATIN SMALL LETTER I"]⟩,
   ⟨0x2074, "SUPERSCRIPT ", ["FOUR|FIVE|SIX|SEVEN|EIGHT|NINE|PLUS SIGN|MINUS|EQUALS SIGN",
     "LEFT PARENTHESIS|RIGHT PARENTHESIS|LATIN SMALL LETTER N"]⟩,
   ⟨0x2080, "SUBSCRIPT ", ["ZERO|ONE|TWO|THREE|FOUR|FIVE|SIX|SEVEN|EIGHT|NINE|PLUS SIGN|MINUS",
     "EQUALS SIGN|LEFT PARENTHESIS|RIGHT PARENTHESIS"]⟩,
   ⟨0x2090, "LATIN SUBSCRIPT SMALL LETTER ", ["A|E|O|X|SCHWA|H|K|L|M|N|P|S|T"]⟩,
   ⟨0x20A0, "", ["EURO-CURRENCY SIGN|COLON SIGN|CRUZEIRO SIGN|FRENCH FRANC SIGN|LIRA SIGN|MILL SIGN",
     "NAIRA SIGN|PESETA SIGN|RUPEE SIGN|WON SIGN|NEW SHEQEL SIGN|DONG SIGN|EURO SIGN|KIP SIGN",
     "TUGRIK SIGN|DRACHMA SIGN|GERMAN PENNY SIGN|PESO SIGN|GUARANI SIGN|AUSTRAL SIGN|HRYVNIA SIGN",
     "CEDI SIGN|LIVRE TOURNOIS SIGN|SPESMILO SIGN|TENGE SIGN|INDIAN RUPEE SIGN|TURKISH LIRA SIGN",
     "NORDIC MARK SIGN|MANAT SIGN|RUBLE SIGN|LARI SIGN|BITCOIN SIGN|SOM SIGN"]⟩,
   ⟨0x20D0, "COMBINING ", ["LEFT HARPOON ABOVE|RIGHT HARPOON ABOVE|LONG VERTICAL LINE OVERLAY",
     "SHORT VERTICAL LINE OVERLAY|ANTICLOCKWISE ARROW ABOVE|CLOCKWISE ARROW ABOVE|LEFT ARROW ABOVE",
     "RIGHT ARROW ABOVE|RING OVERLAY|CLOCKWISE RING OVERLAY|ANTICLOCKWISE RING OVERLAY",
     "THREE DOTS ABOVE|FOUR DOTS ABOVE|ENCLOSING CIRCLE|ENCLOSING SQUARE|ENCLOSING DIAMOND",
     "ENCLOSING CIRCLE BACKSLASH|LEFT RIGHT ARROW ABOVE|ENCLOSING SCREEN|ENCLOSING KEYCAP",
     "ENCLOSING UPWARD POINTING TRIANGLE|REVERSE SOLIDUS OVERLAY|DOUBLE VERTICAL STROKE OVERLAY",
     "ANNUITY SYMBOL|TRIPLE UNDERDOT|WIDE BRIDGE ABOVE|LEFTWARDS ARROW OVERLAY",
     "LONG DOUBLE SOLIDUS OVERLAY|RIGHTWARDS HARPOON WITH BARB DOWNWARDS",
     "LEFTWARDS HARPOON WITH BARB DOWNWARDS|LEFT ARROW BELOW|RIGHT ARROW BELOW|ASTERISK ABOVE"]⟩,
   ⟨0x2100, "", ["ACCOUNT OF|ADDRESSED TO THE SUBJECT|DOUBLE-STRUCK CAPITAL C|DEGREE CELSIUS",
     "CENTRE LINE SYMBOL|CARE OF|CADA UNA|EULER CONSTANT|SCRUPLE|DEGREE FAHRENHEIT"]⟩,
   ⟨0x210A, "SCRIPT ", ["SMALL G|CAPITAL H"]⟩,
   ⟨0x210C, "", ["BLACK-LETTER CAPITAL H|DOUBLE-STRUCK CAPITAL H"]⟩,
   ⟨0x210E, "PLANCK ", ["CONSTANT|CONSTANT OVER TWO PI"]⟩,
   ⟨0x2110, "", ["SCRIPT CAPITAL I|BLACK-LETTER CAPITAL I"]⟩,
   ⟨0x2112, "SCRIPT ", ["CAPITAL L|SMALL L"]⟩,
   ⟨0x2114, "", ["L B BAR SYMBOL|DOUBLE-STRUCK CAPITAL N|NUMERO SIGN|SOUND RECORDING COPYRIGHT",
     "SCRIPT CAPITAL P"]⟩,
   ⟨0x2119, "DOUBLE-STRUCK CAPITAL ", ["P|Q"]⟩,
   ⟨0x211B, "", ["SCRIPT CAPITAL R|BLACK-LETTER CAPITAL R|DOUBLE-STRUCK CAPITAL R|PRESCRIPTION TAKE",
     "RESPONSE|SERVICE MARK|TELEPHONE SIGN|TRADE MARK SIGN|VERSICLE|DOUBLE-STRUCK CAPITAL Z",
     "OUNCE SIGN|OHM SIGN|INVERTED OHM SIGN|BLACK-LETTER CAPITAL Z|TURNED GREEK SMALL LETTER IOTA",
     "KELVIN SIGN|ANGSTROM SIGN|SCRIPT CAPITAL B|BLACK-LETTER CAPITAL C|ESTIMATED SYMBOL"]⟩,
   ⟨0x212F, "SCRIPT ", ["SMALL E|CAPITAL E|CAPITAL F"]⟩,
   ⟨0x2132, "", ["TURNED CAPITAL F"]⟩,
   ⟨0x2133, "SCRIPT ", ["CAPITAL M|SMALL O"]⟩,
   ⟨0x2135, "", ["ALEF SYMBOL|BET SYMBOL|GIMEL SYMBOL|DALET SYMBOL|INFORMATION SOURCE",
     "ROTATED CAPITAL Q|FACSIMILE SIGN"]⟩,
   ⟨0x213C, "DOUBLE-STRUCK ", ["SMALL PI|SMALL GAMMA|CAPITAL GAMMA|CAPITAL PI|N-ARY SUMMATION"]⟩,
   ⟨0x2141, "TURNED SANS-SERIF CAPITAL ", ["G|L"]⟩,
   ⟨0x2143, "", ["REVERSED SANS-SERIF CAPITAL L|TURNED SANS-SERIF CAPITAL Y"]⟩,
   ⟨0x2145, "DOUBLE-STRUCK ITALIC ", ["CAPITAL D|SMALL D|SMALL E|SMALL I|SMALL J"]⟩,
   ⟨0x214A, "", ["PROPERTY LINE|TURNED AMPERSAND|PER SIGN|AKTIESELSKAB|TURNED SMALL F",
     "SYMBOL FOR SAMARITAN SOURCE"]⟩,
   ⟨0x2150, "VULGAR FRACTION ", ["ONE SEVENTH|ONE NINTH|ONE TENTH|ONE THIRD|TWO THIRDS|ONE FIFTH",
     "TWO FIFTHS|THREE FIFTHS|FOUR FIFTHS|ONE SIXTH|FIVE SIXTHS|ONE EIGHTH|THREE EIGHTHS",
     "FIVE EIGHTHS|SEVEN EIGHTHS"]⟩,
   ⟨0x215F, "", ["FRACTION NUMERATOR ONE"]⟩,
   ⟨0x2160, "ROMAN NUMERAL ", ["ONE|TWO|THREE|FOUR|FIVE|SIX|SEVEN|EIGHT|NINE|TEN|ELEVEN|TWELVE|FIFTY",
     "ONE HUNDRED|FIVE HUNDRED|ONE THOUSAND"]⟩,
   ⟨0x2170, "SMALL ROMAN NUMERAL ", ["ONE|TWO|THREE|FOUR|FIVE|SIX|SEVEN|EIGHT|NINE|TEN|ELEVEN|TWELVE",
     "FIFTY|ONE HUNDRED|FIVE HUNDRED|ONE THOUSAND"]⟩,
   ⟨0x2180, "ROMAN NUMERAL ", ["ONE THOUSAND C D|FIVE THOUSAND|TEN THOUSAND|REVERSED ONE HUNDRED"]⟩,
   ⟨0x2184, "", ["LATIN SMALL LETTER REVERSED C"]⟩,
   ⟨0x2185, "ROMAN NUMERAL ", ["SIX LATE FORM|FIFTY EARLY FORM|FIFTY THOUSAND|ONE HUNDRED THOUSAND"]⟩,
   ⟨0x2189, "", ["VULGAR FRACTION ZERO THIRDS"]⟩,
   ⟨0x218A, "TURNED DIGIT ", ["TWO|THREE"]⟩,
   ⟨0x2190, "", ["LEFTWARDS ARROW|UPWARDS ARROW|RIGHTWARDS ARROW|DOWNWARDS ARROW|LEFT RIGHT ARROW",
     "UP DOWN ARROW"]⟩,
   ⟨0x2196, "NORTH ", ["WEST ARROW|EAST ARROW"]⟩,
   ⟨0x2198, "SOUTH ", ["EAST ARROW|WEST ARROW"]⟩,
   ⟨0x219A, "", ["LEFTWARDS ARROW WITH STROKE|RIGHTWARDS ARROW WITH STROKE|LEFTWARDS WAVE ARROW",
     "RIGHTWARDS WAVE ARROW|LEFTWARDS TWO HEADED ARROW|UPWARDS TWO HEADED ARROW",
     "RIGHTWARDS TWO HEADED ARROW|DOWNWARDS TWO HEADED ARROW|LEFTWARDS ARROW WITH TAIL",
     "RIGHTWARDS ARROW WITH TAIL|LEFTWARDS ARROW FROM BAR|UPWARDS ARROW FROM BAR",
     "RIGHTWARDS ARROW FROM BAR|DOWNWARDS ARROW FROM BAR|UP DOWN ARROW WITH BASE",
     "LEFTWARDS ARROW WITH HOOK|RIGHTWARDS ARROW WITH HOOK|LEFTWARDS ARROW WITH LOOP",
     "RIGHTWARDS ARROW WITH LOOP"]⟩,
   ⟨0x21AD, "LEFT RIGHT ", ["WAVE ARROW|ARROW WITH STROKE"]⟩,
   ⟨0x21AF, "", ["DOWNWARDS ZIGZAG ARROW"]⟩,
   ⟨0x21B0, "UPWARDS ARROW WITH TIP ", ["LEFTWARDS|RIGHTWARDS"]⟩,
   ⟨0x21B2, "DOWNWARDS ARROW WITH TIP ", ["LEFTWARDS|RIGHTWARDS"]⟩,
   ⟨0x21B4, "", ["RIGHTWARDS ARROW WITH CORNER DOWNWARDS|DOWNWARDS ARROW WITH CORNER LEFTWARDS",
     "ANTICLOCKWISE TOP SEMICIRCLE ARROW|CLOCKWISE TOP SEMICIRCLE ARROW|NORTH WEST ARROW TO LONG BAR",
     "LEFTWARDS ARROW TO BAR OVER RIGHTWARDS ARROW TO BAR|ANTICLOCKWISE OPEN CIRCLE ARROW",
     "CLOCKWISE OPEN CIRCLE ARROW"]⟩,
   ⟨0x21BC, "LEFTWARDS HARPOON WITH BARB ", ["UPWARDS|DOWNWARDS"]⟩,
   ⟨0x21BE, "UPWARDS HARPOON WITH BARB ", ["RIGHTWARDS|LEFTWARDS"]⟩,
   ⟨0x21C0, "RIGHTWARDS HARPOON WITH BARB ", ["UPWARDS|DOWNWARDS"]⟩,
   ⟨0x21C2, "DOWNWARDS HARPOON WITH BARB ", ["RIGHTWARDS|LEFTWARDS"]⟩,
   ⟨0x21C4, "", ["RIGHTWARDS ARROW OVER LEFTWARDS ARROW|UPWARDS ARROW LEFTWARDS OF DOWNWARDS ARROW"]⟩,
   ⟨0x21C6, "LEFTWARDS ", ["ARROW OVER RIGHTWARDS ARROW|PAIRED ARROWS"]⟩,
   ⟨0x21C8, "", ["UPWARDS PAIRED ARROWS|RIGHTWARDS PAIRED ARROWS|DOWNWARDS PAIRED ARROWS",
     "LEFTWARDS HARPOON OVER RIGHTWARDS HARPOON|RIGHTWARDS HARPOON OVER LEFTWARDS HARPOON",
     "LEFTWARDS DOUBLE ARROW WITH STROKE|LEFT RIGHT DOUBLE ARROW WITH STROKE",
     "RIGHTWARDS DOUBLE ARROW WITH STROKE|LEFTWARDS DOUBLE ARROW|UPWARDS DOUBLE ARROW",
     "RIGHTWARDS DOUBLE ARROW|DOWNWARDS DOUBLE ARROW|LEFT RIGHT DOUBLE ARROW|UP DOWN DOUBLE ARROW"]⟩,
   ⟨0x21D6, "NORTH ", ["WEST DOUBLE ARROW|EAST DOUBLE ARROW"]⟩,
   ⟨0x21D8, "SOUTH ", ["EAST DOUBLE ARROW|WEST DOUBLE ARROW"]⟩,
   ⟨0x21DA, "", ["LEFTWARDS TRIPLE ARROW|RIGHTWARDS TRIPLE ARROW|LEFTWARDS SQUIGGLE ARROW",
     "RIGHTWARDS SQUIGGLE ARROW|UPWARDS ARROW WITH DOUBLE STROKE|DOWNWARDS ARROW WITH DOUBLE STROKE",
     "LEFTWARDS DASHED ARROW|UPWARDS DASHED ARROW|RIGHTWARDS DASHED ARROW|DOWNWARDS DASHED ARROW",
     "LEFTWARDS ARROW TO BAR|RIGHTWARDS ARROW TO BAR|LEFTWARDS WHITE ARROW|UPWARDS WHITE ARROW",
     "RIGHTWARDS WHITE ARROW|DOWNWARDS WHITE ARROW"]⟩,
   ⟨0x21EA, "UPWARDS WHITE ", ["ARROW FROM BAR|ARROW ON PEDESTAL",
     "ARROW ON PEDESTAL WITH HORIZONTAL BAR|ARROW ON PEDESTAL WITH VERTICAL BAR|DOUBLE ARROW",
     "DOUBLE ARROW ON PEDESTAL"]⟩,
   ⟨0x21F0, "", ["RIGHTWARDS WHITE ARROW FROM WALL|NORTH WEST ARROW TO CORNER",
     "SOUTH EAST ARROW TO CORNER|UP DOWN WHITE ARROW|RIGHT ARROW WITH SMALL CIRCLE",
     "DOWNWARDS ARROW LEFTWARDS OF UPWARDS ARROW|THREE RIGHTWARDS ARROWS",
     "LEFTWARDS ARROW WITH VERTICAL STROKE|RIGHTWARDS ARROW WITH VERTICAL STROKE",
     "LEFT RIGHT ARROW WITH VERTICAL STROKE|LEFTWARDS ARROW WITH DOUBLE VERTICAL STROKE",
     "RIGHTWARDS ARROW WITH DOUBLE VERTICAL STROKE|LEFT RIGHT ARROW WITH DOUBLE VERTICAL STROKE",
     "LEFTWARDS OPEN-HEADED ARROW|RIGHTWARDS OPEN-HEADED ARROW|LEFT RIGHT OPEN-HEADED ARROW"]⟩]

/-- Operators and technical signs. -/
def operatorNames : List NameRow :=
  [⟨0x2200, "", ["FOR ALL|COMPLEMENT|PARTIAL DIFFERENTIAL"]⟩,
   ⟨0x2203, "THERE ", ["EXISTS|DOES NOT EXIST"]⟩,
   ⟨0x2205, "", ["EMPTY SET|INCREMENT|NABLA|ELEMENT OF|NOT AN ELEMENT OF|SMALL ELEMENT OF",
     "CONTAINS AS MEMBER|DOES NOT CONTAIN AS MEMBER|SMALL CONTAINS AS MEMBER|END OF PROOF"]⟩,
   ⟨0x220F, "N-ARY ", ["PRODUCT|COPRODUCT|SUMMATION"]⟩,
   ⟨0x2212, "", ["MINUS SIGN|MINUS-OR-PLUS SIGN|DOT PLUS|DIVISION SLASH|SET MINUS|ASTERISK OPERATOR",
     "RING OPERATOR|BULLET OPERATOR|SQUARE ROOT|CUBE ROOT|FOURTH ROOT|PROPORTIONAL TO|INFINITY",
     "RIGHT ANGLE|ANGLE|MEASURED ANGLE|SPHERICAL ANGLE|DIVIDES|DOES NOT DIVIDE|PARALLEL TO",
     "NOT PARALLEL TO"]⟩,
   ⟨0x2227, "LOGICAL ", ["AND|OR"]⟩,
   ⟨0x2229, "", ["INTERSECTION|UNION|INTEGRAL|DOUBLE INTEGRAL|TRIPLE INTEGRAL|CONTOUR INTEGRAL",
     "SURFACE INTEGRAL|VOLUME INTEGRAL"]⟩,
   ⟨0x2231, "CLOCKWISE ", ["INTEGRAL|CONTOUR INTEGRAL"]⟩,
   ⟨0x2233, "", ["ANTICLOCKWISE CONTOUR INTEGRAL|THEREFORE|BECAUSE|RATIO|PROPORTION|DOT MINUS|EXCESS",
     "GEOMETRIC PROPORTION|HOMOTHETIC|TILDE OPERATOR|REVERSED TILDE|INVERTED LAZY S|SINE WAVE",
     "WREATH PRODUCT|NOT TILDE|MINUS TILDE|ASYMPTOTICALLY EQUAL TO|NOT ASYMPTOTICALLY EQUAL TO"]⟩,
   ⟨0x2245, "APPROXIMATELY ", ["EQUAL TO|BUT NOT ACTUALLY EQUAL TO"]⟩,
   ⟨0x2247, "", ["NEITHER APPROXIMATELY NOR ACTUALLY EQUAL TO|ALMOST EQUAL TO|NOT ALMOST EQUAL TO",
     "ALMOST EQUAL OR EQUAL TO|TRIPLE TILDE|ALL EQUAL TO|EQUIVALENT TO|GEOMETRICALLY EQUIVALENT TO",
     "DIFFERENCE BETWEEN|APPROACHES THE LIMIT|GEOMETRICALLY EQUAL TO",
     "APPROXIMATELY EQUAL TO OR THE IMAGE OF|IMAGE OF OR APPROXIMATELY EQUAL TO|COLON EQUALS",
     "EQUALS COLON"]⟩,
   ⟨0x2256, "RING ", ["IN EQUAL TO|EQUAL TO"]⟩,
   ⟨0x2258, "", ["CORRESPONDS TO|ESTIMATES|EQUIANGULAR TO|STAR EQUALS|DELTA EQUAL TO",
     "EQUAL TO BY DEFINITION|MEASURED BY|QUESTIONED EQUAL TO|NOT EQUAL TO|IDENTICAL TO",
     "NOT IDENTICAL TO|STRICTLY EQUIVALENT TO|LESS-THAN OR EQUAL TO|GREATER-THAN OR EQUAL TO",
     "LESS-THAN OVER EQUAL TO|GREATER-THAN OVER EQUAL TO|LESS-THAN BUT NOT EQUAL TO",
     "GREATER-THAN BUT NOT EQUAL TO"]⟩,
   ⟨0x226A, "MUCH ", ["LESS-THAN|GREATER-THAN"]⟩,
   ⟨0x226C, "", ["BETWEEN"]⟩,
   ⟨0x226D, "NOT ", ["EQUIVALENT TO|LESS-THAN|GREATER-THAN"]⟩,
   ⟨0x2270, "NEITHER ", ["LESS-THAN NOR EQUAL TO|GREATER-THAN NOR EQUAL TO"]⟩,
   ⟨0x2272, "", ["LESS-THAN OR EQUIVALENT TO|GREATER-THAN OR EQUIVALENT TO"]⟩,
   ⟨0x2274, "NEITHER ", ["LESS-THAN NOR EQUIVALENT TO|GREATER-THAN NOR EQUIVALENT TO"]⟩,
   ⟨0x2276, "", ["LESS-THAN OR GREATER-THAN|GREATER-THAN OR LESS-THAN"]⟩,
   ⟨0x2278, "NEITHER ", ["LESS-THAN NOR GREATER-THAN|GREATER-THAN NOR LESS-THAN"]⟩,
   ⟨0x227A, "", ["PRECEDES|SUCCEEDS|PRECEDES OR EQUAL TO|SUCCEEDS OR EQUAL TO",
     "PRECEDES OR EQUIVALENT TO|SUCCEEDS OR EQUIVALENT TO"]⟩,
   ⟨0x2280, "DOES NOT ", ["PRECEDE|SUCCEED"]⟩,
   ⟨0x2282, "", ["SUBSET OF|SUPERSET OF"]⟩,
   ⟨0x2284, "NOT A ", ["SUBSET OF|SUPERSET OF"]⟩,
   ⟨0x2286, "", ["SUBSET OF OR EQUAL TO|SUPERSET OF OR EQUAL TO"]⟩,
   ⟨0x2288, "NEITHER A ", ["SUBSET OF NOR EQUAL TO|SUPERSET OF NOR EQUAL TO"]⟩,
   ⟨0x228A, "", ["SUBSET OF WITH NOT EQUAL TO|SUPERSET OF WITH NOT EQUAL TO|MULTISET"]⟩,
   ⟨0x228D, "MULTISET ", ["MULTIPLICATION|UNION"]⟩,
   ⟨0x228F, "SQUARE ", ["IMAGE OF|ORIGINAL OF|IMAGE OF OR EQUAL TO|ORIGINAL OF OR EQUAL TO|CAP|CUP"]⟩,
   ⟨0x2295, "CIRCLED ", ["PLUS|MINUS|TIMES|DIVISION SLASH|DOT OPERATOR|RING OPERATOR",
     "ASTERISK OPERATOR|EQUALS|DASH"]⟩,
   ⟨0x229E, "SQUARED ", ["PLUS|MINUS|TIMES|DOT OPERATOR"]⟩,
   ⟨0x22A2, "", ["RIGHT TACK|LEFT TACK|DOWN TACK|UP TACK|ASSERTION|MODELS|TRUE|FORCES",
     "TRIPLE VERTICAL BAR RIGHT TURNSTILE|DOUBLE VERTICAL BAR DOUBLE RIGHT TURNSTILE|DOES NOT PROVE",
     "NOT TRUE|DOES NOT FORCE|NEGATED DOUBLE VERTICAL BAR DOUBLE RIGHT TURNSTILE",
     "PRECEDES UNDER RELATION|SUCCEEDS UNDER RELATION|NORMAL SUBGROUP OF|CONTAINS AS NORMAL SUBGROUP",
     "NORMAL SUBGROUP OF OR EQUAL TO|CONTAINS AS NORMAL SUBGROUP OR EQUAL TO|ORIGINAL OF|IMAGE OF",
     "MULTIMAP|HERMITIAN CONJUGATE MATRIX|INTERCALATE|XOR|NAND|NOR"]⟩,
   ⟨0x22BE, "RIGHT ", ["ANGLE WITH ARC|TRIANGLE"]⟩,
   ⟨0x22C0, "N-ARY ", ["LOGICAL AND|LOGICAL OR|INTERSECTION|UNION"]⟩,
   ⟨0x22C4, "", ["DIAMOND OPERATOR|DOT OPERATOR|STAR OPERATOR|DIVISION TIMES|BOWTIE",
     "LEFT NORMAL FACTOR SEMIDIRECT PRODUCT|RIGHT NORMAL FACTOR SEMIDIRECT PRODUCT",
     "LEFT SEMIDIRECT PRODUCT|RIGHT SEMIDIRECT PRODUCT|REVERSED TILDE EQUALS"]⟩,
   ⟨0x22CE, "CURLY LOGICAL ", ["OR|AND"]⟩,
   ⟨0x22D0, "DOUBLE ", ["SUBSET|SUPERSET|INTERSECTION|UNION"]⟩,
   ⟨0x22D4, "", ["PITCHFORK|EQUAL AND PARALLEL TO|LESS-THAN WITH DOT|GREATER-THAN WITH DOT"]⟩,
   ⟨0x22D8, "VERY MUCH ", ["LESS-THAN|GREATER-THAN"]⟩,
   ⟨0x22DA, "", ["LESS-THAN EQUAL TO OR GREATER-THAN|GREATER-THAN EQUAL TO OR LESS-THAN"]⟩,
   ⟨0x22DC, "EQUAL TO OR ", ["LESS-THAN|GREATER-THAN|PRECEDES|SUCCEEDS"]⟩,
   ⟨0x22E0, "DOES NOT ", ["PRECEDE OR EQUAL|SUCCEED OR EQUAL"]⟩,
   ⟨0x22E2, "NOT SQUARE ", ["IMAGE OF OR EQUAL TO|ORIGINAL OF OR EQUAL TO"]⟩,
   ⟨0x22E4, "SQUARE ", ["IMAGE OF OR NOT EQUAL TO|ORIGINAL OF OR NOT EQUAL TO"]⟩,
   ⟨0x22E6, "", ["LESS-THAN BUT NOT EQUIVALENT TO|GREATER-THAN BUT NOT EQUIVALENT TO",
     "PRECEDES BUT NOT EQUIVALENT TO|SUCCEEDS BUT NOT EQUIVALENT TO|NOT NORMAL SUBGROUP OF",
     "DOES NOT CONTAIN AS NORMAL SUBGROUP|NOT NORMAL SUBGROUP OF OR EQUAL TO",
     "DOES NOT CONTAIN AS NORMAL SUBGROUP OR EQUAL|VERTICAL ELLIPSIS|MIDLINE HORIZONTAL ELLIPSIS",
     "UP RIGHT DIAGONAL ELLIPSIS|DOWN RIGHT DIAGONAL ELLIPSIS"]⟩,
   ⟨0x22F2, "ELEMENT OF WITH ", ["LONG HORIZONTAL STROKE|VERTICAL BAR AT END OF HORIZONTAL STROKE"]⟩,
   ⟨0x22F4, "", ["SMALL ELEMENT OF WITH VERTICAL BAR AT END OF HORIZONTAL STROKE"]⟩,
   ⟨0x22F5, "ELEMENT OF WITH ", ["DOT ABOVE|OVERBAR"]⟩,
   ⟨0x22F7, "", ["SMALL ELEMENT OF WITH OVERBAR"]⟩,
   ⟨0x22F8, "ELEMENT OF WITH ", ["UNDERBAR|TWO HORIZONTAL STROKES"]⟩,
   ⟨0x22FA, "CONTAINS WITH ", ["LONG HORIZONTAL STROKE|VERTICAL BAR AT END OF HORIZONTAL STROKE"]⟩,
   ⟨0x22FC, "", ["SMALL CONTAINS WITH VERTICAL BAR AT END OF HORIZONTAL STROKE|CONTAINS WITH OVERBAR",
     "SMALL CONTAINS WITH OVERBAR|Z NOTATION BAG MEMBERSHIP|DIAMETER SIGN|ELECTRIC ARROW|HOUSE",
     "UP ARROWHEAD|DOWN ARROWHEAD|PROJECTIVE|PERSPECTIVE|WAVY LINE|LEFT CEILING|RIGHT CEILING",
     "LEFT FLOOR|RIGHT FLOOR"]⟩,
   ⟨0x230C, "BOTTOM ", ["RIGHT CROP|LEFT CROP"]⟩,
   ⟨0x230E, "TOP ", ["RIGHT CROP|LEFT CROP"]⟩,
   ⟨0x2310, "", ["REVERSED NOT SIGN|SQUARE LOZENGE|ARC|SEGMENT|SECTOR|TELEPHONE RECORDER",
     "POSITION INDICATOR|VIEWDATA SQUARE|PLACE OF INTEREST SIGN|TURNED NOT SIGN|WATCH|HOURGLASS"]⟩,
   ⟨0x231C, "TOP ", ["LEFT CORNER|RIGHT CORNER"]⟩,
   ⟨0x231E, "BOTTOM ", ["LEFT CORNER|RIGHT CORNER"]⟩,
   ⟨0x2320, "", ["TOP HALF INTEGRAL|BOTTOM HALF INTEGRAL|FROWN|SMILE",
     "UP ARROWHEAD BETWEEN TWO HORIZONTAL BARS|OPTION KEY|ERASE TO THE RIGHT|X IN A RECTANGLE BOX",
     "KEYBOARD|LEFT-POINTING ANGLE BRACKET|RIGHT-POINTING ANGLE BRACKET|ERASE TO THE LEFT",
     "BENZENE RING|CYLINDRICITY|ALL AROUND-PROFILE|SYMMETRY|TOTAL RUNOUT|DIMENSION ORIGIN",
     "CONICAL TAPER|SLOPE|COUNTERBORE|COUNTERSINK"]⟩,
   ⟨0x2336, "APL FUNCTIONAL SYMBOL ", ["I-BEAM|SQUISH QUAD|QUAD EQUAL|QUAD DIVIDE|QUAD DIAMOND",
     "QUAD JOT|QUAD CIRCLE|CIRCLE STILE|CIRCLE JOT|SLASH BAR|BACKSLASH BAR|QUAD SLASH|QUAD BACKSLASH",
     "QUAD LESS-THAN|QUAD GREATER-THAN|LEFTWARDS VANE|RIGHTWARDS VANE|QUAD LEFTWARDS ARROW",
     "QUAD RIGHTWARDS ARROW|CIRCLE BACKSLASH|DOWN TACK UNDERBAR|DELTA STILE|QUAD DOWN CARET",
     "QUAD DELTA|DOWN TACK JOT|UPWARDS VANE|QUAD UPWARDS ARROW|UP TACK OVERBAR|DEL STILE",
     "QUAD UP CARET|QUAD DEL|UP TACK JOT|DOWNWARDS VANE|QUAD DOWNWARDS ARROW|QUOTE UNDERBAR",
     "DELTA UNDERBAR|DIAMOND UNDERBAR|JOT UNDERBAR|CIRCLE UNDERBAR|UP SHOE JOT|QUOTE QUAD",
     "CIRCLE STAR|QUAD COLON|UP TACK DIAERESIS|DEL DIAERESIS|STAR DIAERESIS|JOT DIAERESIS",
     "CIRCLE DIAERESIS|DOWN SHOE STILE|LEFT SHOE STILE|TILDE DIAERESIS|GREATER-THAN DIAERESIS",
     "COMMA BAR|DEL TILDE|ZILDE|STILE TILDE|SEMICOLON UNDERBAR|QUAD NOT EQUAL|QUAD QUESTION",
     "DOWN CARET TILDE|UP CARET TILDE|IOTA|RHO|OMEGA|ALPHA UNDERBAR|EPSILON UNDERBAR|IOTA UNDERBAR",
     "OMEGA UNDERBAR|ALPHA"]⟩,
   ⟨0x237B, "", ["NOT CHECK MARK|RIGHT ANGLE WITH DOWNWARDS ZIGZAG ARROW|SHOULDERED OPEN BOX",
     "BELL SYMBOL|VERTICAL LINE WITH MIDDLE DOT|INSERTION SYMBOL|CONTINUOUS UNDERLINE SYMBOL",
     "DISCONTINUOUS UNDERLINE SYMBOL|EMPHASIS SYMBOL|COMPOSITION SYMBOL",
     "WHITE SQUARE WITH CENTRE VERTICAL LINE|ENTER SYMBOL|ALTERNATIVE KEY SYMBOL|HELM SYMBOL"]⟩,
   ⟨0x2389, "CIRCLED ", ["HORIZONTAL BAR WITH NOTCH|TRIANGLE DOWN"]⟩,
   ⟨0x238B, "", ["BROKEN CIRCLE WITH NORTHWEST ARROW|UNDO SYMBOL|MONOSTABLE SYMBOL",
     "HYSTERESIS SYMBOL"]⟩,
   ⟨0x238F, "OPEN-CIRCUIT-OUTPUT ", ["H-TYPE SYMBOL|L-TYPE SYMBOL"]⟩,
   ⟨0x2391, "", ["PASSIVE-PULL-DOWN-OUTPUT SYMBOL|PASSIVE-PULL-UP-OUTPUT SYMBOL",
     "DIRECT CURRENT SYMBOL FORM TWO|SOFTWARE-FUNCTION SYMBOL|APL FUNCTIONAL SYMBOL QUAD",
     "DECIMAL SEPARATOR KEY SYMBOL|PREVIOUS PAGE|NEXT PAGE|PRINT SCREEN SYMBOL|CLEAR SCREEN SYMBOL"]⟩,
   ⟨0x239B, "LEFT PARENTHESIS ", ["UPPER HOOK|EXTENSION|LOWER HOOK"]⟩,
   ⟨0x239E, "RIGHT PARENTHESIS ", ["UPPER HOOK|EXTENSION|LOWER HOOK"]⟩,
   ⟨0x23A1, "LEFT SQUARE BRACKET ", ["UPPER CORNER|EXTENSION|LOWER CORNER"]⟩,
   ⟨0x23A4, "RIGHT SQUARE BRACKET ", ["UPPER CORNER|EXTENSION|LOWER CORNER"]⟩,
   ⟨0x23A7, "LEFT CURLY BRACKET ", ["UPPER HOOK|MIDDLE PIECE|LOWER HOOK"]⟩,
   ⟨0x23AA, "", ["CURLY BRACKET EXTENSION"]⟩,
   ⟨0x23AB, "RIGHT CURLY BRACKET ", ["UPPER HOOK|MIDDLE PIECE|LOWER HOOK"]⟩,
   ⟨0x23AE, "", ["INTEGRAL EXTENSION|HORIZONTAL LINE EXTENSION"]⟩,
   ⟨0x23B0, "UPPER ", ["LEFT OR LOWER RIGHT CURLY BRACKET SECTION",
     "RIGHT OR LOWER LEFT CURLY BRACKET SECTION"]⟩,
   ⟨0x23B2, "SUMMATION ", ["TOP|BOTTOM"]⟩,
   ⟨0x23B4, "", ["TOP SQUARE BRACKET"]⟩,
   ⟨0x23B5, "BOTTOM SQUARE ", ["BRACKET|BRACKET OVER TOP SQUARE BRACKET"]⟩,
   ⟨0x23B7, "", ["RADICAL SYMBOL BOTTOM|LEFT VERTICAL BOX LINE|RIGHT VERTICAL BOX LINE"]⟩,
   ⟨0x23BA, "HORIZONTAL SCAN ", ["LINE-1|LINE-3|LINE-7|LINE-9"]⟩,
   ⟨0x23BE, "DENTISTRY SYMBOL LIGHT ", ["VERTICAL AND TOP RIGHT|VERTICAL AND BOTTOM RIGHT",
     "VERTICAL WITH CIRCLE|DOWN AND HORIZONTAL WITH CIRCLE|UP AND HORIZONTAL WITH CIRCLE",
     "VERTICAL WITH TRIANGLE|DOWN AND HORIZONTAL WITH TRIANGLE|UP AND HORIZONTAL WITH TRIANGLE",
     "VERTICAL AND WAVE|DOWN AND HORIZONTAL WITH WAVE|UP AND HORIZONTAL WITH WAVE",
     "DOWN AND HORIZONTAL|UP AND HORIZONTAL|VERTICAL AND TOP LEFT|VERTICAL AND BOTTOM LEFT"]⟩,
   ⟨0x23CD, "", ["SQUARE FOOT|RETURN SYMBOL|EJECT SYMBOL|VERTICAL LINE EXTENSION"]⟩,
   ⟨0x23D1, "METRICAL ", ["BREVE|LONG OVER SHORT|SHORT OVER LONG|LONG OVER TWO SHORTS",
     "TWO SHORTS OVER LONG|TWO SHORTS JOINED|TRISEME|TETRASEME|PENTASEME"]⟩,
   ⟨0x23DA, "", ["EARTH GROUND|FUSE|TOP PARENTHESIS|BOTTOM PARENTHESIS|TOP CURLY BRACKET",
     "BOTTOM CURLY BRACKET|TOP TORTOISE SHELL BRACKET|BOTTOM TORTOISE SHELL BRACKET|WHITE TRAPEZIUM",
     "BENZENE RING WITH CIRCLE|STRAIGHTNESS|FLATNESS|AC CURRENT|ELECTRICAL INTERSECTION",
     "DECIMAL EXPONENT SYMBOL"]⟩,
   ⟨0x23E9, "BLACK ", ["RIGHT-POINTING DOUBLE TRIANGLE|LEFT-POINTING DOUBLE TRIANGLE",
     "UP-POINTING DOUBLE TRIANGLE|DOWN-POINTING DOUBLE TRIANGLE",
     "RIGHT-POINTING DOUBLE TRIANGLE WITH VERTICAL BAR",
     "LEFT-POINTING DOUBLE TRIANGLE WITH VERTICAL BAR",
     "RIGHT-POINTING TRIANGLE WITH DOUBLE VERTICAL BAR"]⟩,
   ⟨0x23F0, "", ["ALARM CLOCK|STOPWATCH|TIMER CLOCK|HOURGLASS WITH FLOWING SAND"]⟩,
   ⟨0x23F4, "BLACK MEDIUM ", ["LEFT-POINTING TRIANGLE|RIGHT-POINTING TRIANGLE|UP-POINTING TRIANGLE",
     "DOWN-POINTING TRIANGLE"]⟩,
   ⟨0x23F8, "", ["DOUBLE VERTICAL BAR"]⟩,
   ⟨0x23F9, "BLACK ", ["SQUARE FOR STOP|CIRCLE FOR RECORD"]⟩,
   ⟨0x23FB, "POWER ", ["SYMBOL|ON-OFF SYMBOL|ON SYMBOL|SLEEP SYMBOL"]⟩,
   ⟨0x23FF, "", ["OBSERVER EYE SYMBOL"]⟩,
   ⟨0x2400, "SYMBOL FOR ", ["NULL|START OF HEADING|START OF TEXT|END OF TEXT|END OF TRANSMISSION",
     "ENQUIRY|ACKNOWLEDGE|BELL|BACKSPACE|HORIZONTAL TABULATION|LINE FEED|VERTICAL TABULATION",
     "FORM FEED|CARRIAGE RETURN|SHIFT OUT|SHIFT IN|DATA LINK ESCAPE|DEVICE CONTROL ONE",
     "DEVICE CONTROL TWO|DEVICE CONTROL THREE|DEVICE CONTROL FOUR|NEGATIVE ACKNOWLEDGE",
     "SYNCHRONOUS IDLE|END OF TRANSMISSION BLOCK|CANCEL|END OF MEDIUM|SUBSTITUTE|ESCAPE",
     "FILE SEPARATOR|GROUP SEPARATOR|RECORD SEPARATOR|UNIT SEPARATOR|SPACE|DELETE"]⟩,
   ⟨0x2422, "", ["BLANK SYMBOL|OPEN BOX"]⟩,
   ⟨0x2424, "SYMBOL FOR ", ["NEWLINE|DELETE FORM TWO|SUBSTITUTE FORM TWO"]⟩,
   ⟨0x2440, "OCR ", ["HOOK|CHAIR|FORK|INVERTED FORK|BELT BUCKLE|BOW TIE|BRANCH BANK IDENTIFICATION",
     "AMOUNT OF CHECK|DASH|CUSTOMER ACCOUNT NUMBER|DOUBLE BACKSLASH"]⟩]

/-- Enclosed characters, boxes, shapes, signs and ornaments. -/
def shapeNames : List NameRow :=
  [⟨0x2460, "CIRCLED ", ["DIGIT ONE|DIGIT TWO|DIGIT THREE|DIGIT FOUR|DIGIT FIVE|DIGIT SIX",
     "DIGIT SEVEN|DIGIT EIGHT|DIGIT NINE|NUMBER TEN|NUMBER ELEVEN|NUMBER TWELVE|NUMBER THIRTEEN",
     "NUMBER FOURTEEN|NUMBER FIFTEEN|NUMBER SIXTEEN|NUMBER SEVENTEEN|NUMBER EIGHTEEN|NUMBER NINETEEN",
     "NUMBER TWENTY"]⟩,
   ⟨0x2474, "PARENTHESIZED ", ["DIGIT ONE|DIGIT TWO|DIGIT THREE|DIGIT FOUR|DIGIT FIVE|DIGIT SIX",
     "DIGIT SEVEN|DIGIT EIGHT|DIGIT NINE|NUMBER TEN|NUMBER ELEVEN|NUMBER TWELVE|NUMBER THIRTEEN",
     "NUMBER FOURTEEN|NUMBER FIFTEEN|NUMBER SIXTEEN|NUMBER SEVENTEEN|NUMBER EIGHTEEN|NUMBER NINETEEN",
     "NUMBER TWENTY"]⟩,
   ⟨0x2488, "DIGIT ", ["ONE FULL STOP|TWO FULL STOP|THREE FULL STOP|FOUR FULL STOP|FIVE FULL STOP",
     "SIX FULL STOP|SEVEN FULL STOP|EIGHT FULL STOP|NINE FULL STOP"]⟩,
   ⟨0x2491, "NUMBER ", ["TEN FULL STOP|ELEVEN FULL STOP|TWELVE FULL STOP|THIRTEEN FULL STOP",
     "FOURTEEN FULL STOP|FIFTEEN FULL STOP|SIXTEEN FULL STOP|SEVENTEEN FULL STOP|EIGHTEEN FULL STOP",
     "NINETEEN FULL STOP|TWENTY FULL STOP"]⟩,
   ⟨0x249C, "PARENTHESIZED LATIN SMALL LETTER ", ["A|B|C|D|E|F|G|H|I|J|K|L|M|N|O|P|Q|R|S|T|U|V|W|X|Y",
     "Z"]⟩,
   ⟨0x24B6, "CIRCLED LATIN CAPITAL LETTER ", ["A|B|C|D|E|F|G|H|I|J|K|L|M|N|O|P|Q|R|S|T|U|V|W|X|Y|Z"]⟩,
   ⟨0x24D0, "CIRCLED LATIN SMALL LETTER ", ["A|B|C|D|E|F|G|H|I|J|K|L|M|N|O|P|Q|R|S|T|U|V|W|X|Y|Z"]⟩,
   ⟨0x24EA, "", ["CIRCLED DIGIT ZERO"]⟩,
   ⟨0x24EB, "NEGATIVE CIRCLED NUMBER ", ["ELEVEN|TWELVE|THIRTEEN|FOURTEEN|FIFTEEN|SIXTEEN|SEVENTEEN",
     "EIGHTEEN|NINETEEN|TWENTY"]⟩,
   ⟨0x24F5, "DOUBLE CIRCLED DIGIT ", ["ONE|TWO|THREE|FOUR|FIVE|SIX|SEVEN|EIGHT|NINE"]⟩,
   ⟨0x24FE, "", ["DOUBLE CIRCLED NUMBER TEN|NEGATIVE CIRCLED DIGIT ZERO"]⟩,
   ⟨0x2500, "BOX DRAWINGS ", ["LIGHT HORIZONTAL|HEAVY HORIZONTAL|LIGHT VERTICAL|HEAVY VERTICAL",
     "LIGHT TRIPLE DASH HORIZONTAL|HEAVY TRIPLE DASH HORIZONTAL|LIGHT TRIPLE DASH VERTICAL",
     "HEAVY TRIPLE DASH VERTICAL|LIGHT QUADRUPLE DASH HORIZONTAL|HEAVY QUADRUPLE DASH HORIZONTAL",
     "LIGHT QUADRUPLE DASH VERTICAL|HEAVY QUADRUPLE DASH VERTICAL|LIGHT DOWN AND RIGHT",
     "DOWN LIGHT AND RIGHT HEAVY|DOWN HEAVY AND RIGHT LIGHT|HEAVY DOWN AND RIGHT|LIGHT DOWN AND LEFT",
     "DOWN LIGHT AND LEFT HEAVY|DOWN HEAVY AND LEFT LIGHT|HEAVY DOWN AND LEFT|LIGHT UP AND RIGHT",
     "UP LIGHT AND RIGHT HEAVY|UP HEAVY AND RIGHT LIGHT|HEAVY UP AND RIGHT|LIGHT UP AND LEFT",
     "UP LIGHT AND LEFT HEAVY|UP HEAVY AND LEFT LIGHT|HEAVY UP AND LEFT|LIGHT VERTICAL AND RIGHT",
     "VERTICAL LIGHT AND RIGHT HEAVY|UP HEAVY AND RIGHT DOWN LIGHT|DOWN HEAVY AND RIGHT UP LIGHT",
     "VERTICAL HEAVY AND RIGHT LIGHT|DOWN LIGHT AND RIGHT UP HEAVY|UP LIGHT AND RIGHT DOWN HEAVY",
     "HEAVY VERTICAL AND RIGHT|LIGHT VERTICAL AND LEFT|VERTICAL LIGHT AND LEFT HEAVY",
     "UP HEAVY AND LEFT DOWN LIGHT|DOWN HEAVY AND LEFT UP LIGHT|VERTICAL HEAVY AND LEFT LIGHT",
     "DOWN LIGHT AND LEFT UP HEAVY|UP LIGHT AND LEFT DOWN HEAVY|HEAVY VERTICAL AND LEFT",
     "LIGHT DOWN AND HORIZONTAL|LEFT HEAVY AND RIGHT DOWN LIGHT|RIGHT HEAVY AND LEFT DOWN LIGHT",
     "DOWN LIGHT AND HORIZONTAL HEAVY|DOWN HEAVY AND HORIZONTAL LIGHT",
     "RIGHT LIGHT AND LEFT DOWN HEAVY|LEFT LIGHT AND RIGHT DOWN HEAVY|HEAVY DOWN AND HORIZONTAL",
     "LIGHT UP AND HORIZONTAL|LEFT HEAVY AND RIGHT UP LIGHT|RIGHT HEAVY AND LEFT UP LIGHT",
     "UP LIGHT AND HORIZONTAL HEAVY|UP HEAVY AND HORIZONTAL LIGHT|RIGHT LIGHT AND LEFT UP HEAVY",
     "LEFT LIGHT AND RIGHT UP HEAVY|HEAVY UP AND HORIZONTAL|LIGHT VERTICAL AND HORIZONTAL",
     "LEFT HEAVY AND RIGHT VERTICAL LIGHT|RIGHT HEAVY AND LEFT VERTICAL LIGHT",
     "VERTICAL LIGHT AND HORIZONTAL HEAVY|UP HEAVY AND DOWN HORIZONTAL LIGHT",
     "DOWN HEAVY AND UP HORIZONTAL LIGHT|VERTICAL HEAVY AND HORIZONTAL LIGHT",
     "LEFT UP HEAVY AND RIGHT DOWN LIGHT|RIGHT UP HEAVY AND LEFT DOWN LIGHT",
     "LEFT DOWN HEAVY AND RIGHT UP LIGHT|RIGHT DOWN HEAVY AND LEFT UP LIGHT",
     "DOWN LIGHT AND UP HORIZONTAL HEAVY|UP LIGHT AND DOWN HORIZONTAL HEAVY",
     "RIGHT LIGHT AND LEFT VERTICAL HEAVY|LEFT LIGHT AND RIGHT VERTICAL HEAVY",
     "HEAVY VERTICAL AND HORIZONTAL|LIGHT DOUBLE DASH HORIZONTAL|HEAVY DOUBLE DASH HORIZONTAL",
     "LIGHT DOUBLE DASH VERTICAL|HEAVY DOUBLE DASH VERTICAL|DOUBLE HORIZONTAL|DOUBLE VERTICAL",
     "DOWN SINGLE AND RIGHT DOUBLE|DOWN DOUBLE AND RIGHT SINGLE|DOUBLE DOWN AND RIGHT",
     "DOWN SINGLE AND LEFT DOUBLE|DOWN DOUBLE AND LEFT SINGLE|DOUBLE DOWN AND LEFT",
     "UP SINGLE AND RIGHT DOUBLE|UP DOUBLE AND RIGHT SINGLE|DOUBLE UP AND RIGHT",
     "UP SINGLE AND LEFT DOUBLE|UP DOUBLE AND LEFT SINGLE|DOUBLE UP AND LEFT",
     "VERTICAL SINGLE AND RIGHT DOUBLE|VERTICAL DOUBLE AND RIGHT SINGLE|DOUBLE VERTICAL AND RIGHT",
     "VERTICAL SINGLE AND LEFT DOUBLE|VERTICAL DOUBLE AND LEFT SINGLE|DOUBLE VERTICAL AND LEFT",
     "DOWN SINGLE AND HORIZONTAL DOUBLE|DOWN DOUBLE AND HORIZONTAL SINGLE|DOUBLE DOWN AND HORIZONTAL",
     "UP SINGLE AND HORIZONTAL DOUBLE|UP DOUBLE AND HORIZONTAL SINGLE|DOUBLE UP AND HORIZONTAL",
     "VERTICAL SINGLE AND HORIZONTAL DOUBLE|VERTICAL DOUBLE AND HORIZONTAL SINGLE",
     "DOUBLE VERTICAL AND HORIZONTAL|LIGHT ARC DOWN AND RIGHT|LIGHT ARC DOWN AND LEFT",
     "LIGHT ARC UP AND LEFT|LIGHT ARC UP AND RIGHT|LIGHT DIAGONAL UPPER RIGHT TO LOWER LEFT",
     "LIGHT DIAGONAL UPPER LEFT TO LOWER RIGHT|LIGHT DIAGONAL CROSS|LIGHT LEFT|LIGHT UP|LIGHT RIGHT",
     "LIGHT DOWN|HEAVY LEFT|HEAVY UP|HEAVY RIGHT|HEAVY DOWN|LIGHT LEFT AND HEAVY RIGHT",
     "LIGHT UP AND HEAVY DOWN|HEAVY LEFT AND LIGHT RIGHT|HEAVY UP AND LIGHT DOWN"]⟩,
   ⟨0x2580, "", ["UPPER HALF BLOCK"]⟩,
   ⟨0x2581, "LOWER ", ["ONE EIGHTH BLOCK|ONE QUARTER BLOCK|THREE EIGHTHS BLOCK|HALF BLOCK",
     "FIVE EIGHTHS BLOCK|THREE QUARTERS BLOCK|SEVEN EIGHTHS BLOCK"]⟩,
   ⟨0x2588, "", ["FULL BLOCK"]⟩,
   ⟨0x2589, "LEFT ", ["SEVEN EIGHTHS BLOCK|THREE QUARTERS BLOCK|FIVE EIGHTHS BLOCK|HALF BLOCK",
     "THREE EIGHTHS BLOCK|ONE QUARTER BLOCK|ONE EIGHTH BLOCK"]⟩,
   ⟨0x2590, "", ["RIGHT HALF BLOCK|LIGHT SHADE|MEDIUM SHADE|DARK SHADE|UPPER ONE EIGHTH BLOCK",
     "RIGHT ONE EIGHTH BLOCK"]⟩,
   ⟨0x2596, "QUADRANT ", ["LOWER LEFT|LOWER RIGHT|UPPER LEFT",
     "UPPER LEFT AND LOWER LEFT AND LOWER RIGHT|UPPER LEFT AND LOWER RIGHT",
     "UPPER LEFT AND UPPER RIGHT AND LOWER LEFT|UPPER LEFT AND UPPER RIGHT AND LOWER RIGHT",
     "UPPER RIGHT|UPPER RIGHT AND LOWER LEFT|UPPER RIGHT AND LOWER LEFT AND LOWER RIGHT"]⟩,
   ⟨0x25A0, "", ["BLACK SQUARE"]⟩,
   ⟨0x25A1, "WHITE ", ["SQUARE|SQUARE WITH ROUNDED CORNERS|SQUARE CONTAINING BLACK SMALL SQUARE"]⟩,
   ⟨0x25A4, "SQUARE WITH ", ["HORIZONTAL FILL|VERTICAL FILL|ORTHOGONAL CROSSHATCH FILL",
     "UPPER LEFT TO LOWER RIGHT FILL|UPPER RIGHT TO LOWER LEFT FILL|DIAGONAL CROSSHATCH FILL"]⟩,
   ⟨0x25AA, "", ["BLACK SMALL SQUARE|WHITE SMALL SQUARE|BLACK RECTANGLE|WHITE RECTANGLE",
     "BLACK VERTICAL RECTANGLE|WHITE VERTICAL RECTANGLE|BLACK PARALLELOGRAM|WHITE PARALLELOGRAM",
     "BLACK UP-POINTING TRIANGLE|WHITE UP-POINTING TRIANGLE|BLACK UP-POINTING SMALL TRIANGLE",
     "WHITE UP-POINTING SMALL TRIANGLE|BLACK RIGHT-POINTING TRIANGLE|WHITE RIGHT-POINTING TRIANGLE",
     "BLACK RIGHT-POINTING SMALL TRIANGLE|WHITE RIGHT-POINTING SMALL TRIANGLE",
     "BLACK RIGHT-POINTING POINTER|WHITE RIGHT-POINTING POINTER|BLACK DOWN-POINTING TRIANGLE",
     "WHITE DOWN-POINTING TRIANGLE|BLACK DOWN-POINTING SMALL TRIANGLE",
     "WHITE DOWN-POINTING SMALL TRIANGLE|BLACK LEFT-POINTING TRIANGLE|WHITE LEFT-POINTING TRIANGLE",
     "BLACK LEFT-POINTING SMALL TRIANGLE|WHITE LEFT-POINTING SMALL TRIANGLE",
     "BLACK LEFT-POINTING POINTER|WHITE LEFT-POINTING POINTER|BLACK DIAMOND"]⟩,
   ⟨0x25C7, "WHITE ", ["DIAMOND|DIAMOND CONTAINING BLACK SMALL DIAMOND"]⟩,
   ⟨0x25C9, "", ["FISHEYE|LOZENGE|WHITE CIRCLE|DOTTED CIRCLE|CIRCLE WITH VERTICAL FILL|BULLSEYE",
     "BLACK CIRCLE"]⟩,
   ⟨0x25D0, "CIRCLE WITH ", ["LEFT HALF BLACK|RIGHT HALF BLACK|LOWER HALF BLACK|UPPER HALF BLACK",
     "UPPER RIGHT QUADRANT BLACK|ALL BUT UPPER LEFT QUADRANT BLACK"]⟩,
   ⟨0x25D6, "", ["LEFT HALF BLACK CIRCLE|RIGHT HALF BLACK CIRCLE"]⟩,
   ⟨0x25D8, "INVERSE ", ["BULLET|WHITE CIRCLE"]⟩,
   ⟨0x25DA, "", ["UPPER HALF INVERSE WHITE CIRCLE|LOWER HALF INVERSE WHITE CIRCLE"]⟩,
   ⟨0x25DC, "UPPER ", ["LEFT QUADRANT CIRCULAR ARC|RIGHT QUADRANT CIRCULAR ARC"]⟩,
   ⟨0x25DE, "LOWER ", ["RIGHT QUADRANT CIRCULAR ARC|LEFT QUADRANT CIRCULAR ARC"]⟩,
   ⟨0x25E0, "", ["UPPER HALF CIRCLE|LOWER HALF CIRCLE"]⟩,
   ⟨0x25E2, "BLACK ", ["LOWER RIGHT TRIANGLE|LOWER LEFT TRIANGLE|UPPER LEFT TRIANGLE",
     "UPPER RIGHT TRIANGLE"]⟩,
   ⟨0x25E6, "", ["WHITE BULLET"]⟩,
   ⟨0x25E7, "SQUARE WITH ", ["LEFT HALF BLACK|RIGHT HALF BLACK|UPPER LEFT DIAGONAL HALF BLACK",
     "LOWER RIGHT DIAGONAL HALF BLACK"]⟩,
   ⟨0x25EB, "WHITE ", ["SQUARE WITH VERTICAL BISECTING LINE|UP-POINTING TRIANGLE WITH DOT"]⟩,
   ⟨0x25ED, "UP-POINTING TRIANGLE WITH ", ["LEFT HALF BLACK|RIGHT HALF BLACK"]⟩,
   ⟨0x25EF, "", ["LARGE CIRCLE"]⟩,
   ⟨0x25F0, "WHITE SQUARE WITH ", ["UPPER LEFT QUADRANT|LOWER LEFT QUADRANT|LOWER RIGHT QUADRANT",
     "UPPER RIGHT QUADRANT"]⟩,
   ⟨0x25F4, "WHITE CIRCLE WITH ", ["UPPER LEFT QUADRANT|LOWER LEFT QUADRANT|LOWER RIGHT QUADRANT",
     "UPPER RIGHT QUADRANT"]⟩,
   ⟨0x25F8, "UPPER ", ["LEFT TRIANGLE|RIGHT TRIANGLE"]⟩,
   ⟨0x25FA, "", ["LOWER LEFT TRIANGLE|WHITE MEDIUM SQUARE|BLACK MEDIUM SQUARE",
     "WHITE MEDIUM SMALL SQUARE|BLACK MEDIUM SMALL SQUARE|LOWER RIGHT TRIANGLE|BLACK SUN WITH RAYS",
     "CLOUD|UMBRELLA|SNOWMAN|COMET|BLACK STAR|WHITE STAR|LIGHTNING|THUNDERSTORM|SUN|ASCENDING NODE",
     "DESCENDING NODE|CONJUNCTION|OPPOSITION|BLACK TELEPHONE|WHITE TELEPHONE"]⟩,
   ⟨0x2610, "BALLOT ", ["BOX|BOX WITH CHECK|BOX WITH X"]⟩,
   ⟨0x2613, "", ["SALTIRE|UMBRELLA WITH RAIN DROPS|HOT BEVERAGE|WHITE SHOGI PIECE|BLACK SHOGI PIECE",
     "SHAMROCK|REVERSED ROTATED FLORAL HEART BULLET"]⟩,
   ⟨0x261A, "BLACK ", ["LEFT POINTING INDEX|RIGHT POINTING INDEX"]⟩,
   ⟨0x261C, "WHITE ", ["LEFT POINTING INDEX|UP POINTING INDEX|RIGHT POINTING INDEX",
     "DOWN POINTING INDEX"]⟩,
   ⟨0x2620, "", ["SKULL AND CROSSBONES|CAUTION SIGN|RADIOACTIVE SIGN|BIOHAZARD SIGN|CADUCEUS|ANKH",
     "ORTHODOX CROSS|CHI RHO"]⟩,
   ⟨0x2628, "CROSS OF ", ["LORRAINE|JERUSALEM"]⟩,
   ⟨0x262A, "", ["STAR AND CRESCENT|FARSI SYMBOL|ADI SHAKTI|HAMMER AND SICKLE|PEACE SYMBOL",
     "YIN YANG"]⟩,
   ⟨0x2630, "TRIGRAM FOR ", ["HEAVEN|LAKE|FIRE|THUNDER|WIND|WATER|MOUNTAIN|EARTH"]⟩,
   ⟨0x2638, "", ["WHEEL OF DHARMA"]⟩,
   ⟨0x2639, "WHITE ", ["FROWNING FACE|SMILING FACE"]⟩,
   ⟨0x263B, "", ["BLACK SMILING FACE|WHITE SUN WITH RAYS|FIRST QUARTER MOON|LAST QUARTER MOON",
     "MERCURY|FEMALE SIGN|EARTH|MALE SIGN|JUPITER|SATURN|URANUS|NEPTUNE|PLUTO|ARIES|TAURUS|GEMINI",
     "CANCER|LEO|VIRGO|LIBRA|SCORPIUS|SAGITTARIUS|CAPRICORN|AQUARIUS|PISCES"]⟩,
   ⟨0x2654, "WHITE CHESS ", ["KING|QUEEN|ROOK|BISHOP|KNIGHT|PAWN"]⟩,
   ⟨0x265A, "BLACK CHESS ", ["KING|QUEEN|ROOK|BISHOP|KNIGHT|PAWN"]⟩,
   ⟨0x2660, "", ["BLACK SPADE SUIT"]⟩,
   ⟨0x2661, "WHITE ", ["HEART SUIT|DIAMOND SUIT"]⟩,
   ⟨0x2663, "", ["BLACK CLUB SUIT|WHITE SPADE SUIT"]⟩,
   ⟨0x2665, "BLACK ", ["HEART SUIT|DIAMOND SUIT"]⟩,
   ⟨0x2667, "", ["WHITE CLUB SUIT|HOT SPRINGS|QUARTER NOTE|EIGHTH NOTE"]⟩,
   ⟨0x266B, "BEAMED ", ["EIGHTH NOTES|SIXTEENTH NOTES"]⟩,
   ⟨0x266D, "MUSIC ", ["FLAT SIGN|NATURAL SIGN|SHARP SIGN"]⟩,
   ⟨0x2670, "", ["WEST SYRIAC CROSS|EAST SYRIAC CROSS|UNIVERSAL RECYCLING SYMBOL"]⟩,
   ⟨0x2673, "RECYCLING SYMBOL FOR ", ["TYPE-1 PLASTICS|TYPE-2 PLASTICS|TYPE-3 PLASTICS",
     "TYPE-4 PLASTICS|TYPE-5 PLASTICS|TYPE-6 PLASTICS|TYPE-7 PLASTICS|GENERIC MATERIALS"]⟩,
   ⟨0x267B, "", ["BLACK UNIVERSAL RECYCLING SYMBOL|RECYCLED PAPER SYMBOL",
     "PARTIALLY-RECYCLED PAPER SYMBOL|PERMANENT PAPER SIGN|WHEELCHAIR SYMBOL"]⟩,
   ⟨0x2680, "DIE ", ["FACE-1|FACE-2|FACE-3|FACE-4|FACE-5|FACE-6"]⟩,
   ⟨0x2686, "WHITE CIRCLE WITH ", ["DOT RIGHT|TWO DOTS"]⟩,
   ⟨0x2688, "BLACK CIRCLE WITH ", ["WHITE DOT RIGHT|TWO WHITE DOTS"]⟩,
   ⟨0x268A, "MONOGRAM FOR ", ["YANG|YIN"]⟩,
   ⟨0x268C, "DIGRAM FOR ", ["GREATER YANG|LESSER YIN|LESSER YANG|GREATER YIN"]⟩,
   ⟨0x2690, "", ["WHITE FLAG|BLACK FLAG|HAMMER AND PICK|ANCHOR|CROSSED SWORDS|STAFF OF AESCULAPIUS",
     "SCALES|ALEMBIC|FLOWER|GEAR|STAFF OF HERMES|ATOM SYMBOL|FLEUR-DE-LIS|OUTLINED WHITE STAR"]⟩,
   ⟨0x269E, "THREE LINES CONVERGING ", ["RIGHT|LEFT"]⟩,
   ⟨0x26A0, "", ["WARNING SIGN|HIGH VOLTAGE SIGN"]⟩,
   ⟨0x26A2, "DOUBLED ", ["FEMALE SIGN|MALE SIGN"]⟩,
   ⟨0x26A4, "", ["INTERLOCKED FEMALE AND MALE SIGN"]⟩,
   ⟨0x26A5, "MALE ", ["AND FEMALE SIGN|WITH STROKE SIGN|WITH STROKE AND MALE AND FEMALE SIGN"]⟩,
   ⟨0x26A8, "", ["VERTICAL MALE WITH STROKE SIGN|HORIZONTAL MALE WITH STROKE SIGN"]⟩,
   ⟨0x26AA, "MEDIUM ", ["WHITE CIRCLE|BLACK CIRCLE|SMALL WHITE CIRCLE"]⟩,
   ⟨0x26AD, "", ["MARRIAGE SYMBOL|DIVORCE SYMBOL|UNMARRIED PARTNERSHIP SYMBOL|COFFIN|FUNERAL URN",
     "NEUTER|CERES|PALLAS|JUNO|VESTA|CHIRON|BLACK MOON LILITH|SEXTILE|SEMISEXTILE|QUINCUNX",
     "SESQUIQUADRATE|SOCCER BALL|BASEBALL|SQUARED KEY"]⟩,
   ⟨0x26C0, "WHITE DRAUGHTS ", ["MAN|KING"]⟩,
   ⟨0x26C2, "BLACK DRAUGHTS ", ["MAN|KING"]⟩,
   ⟨0x26C4, "", ["SNOWMAN WITHOUT SNOW|SUN BEHIND CLOUD|RAIN|BLACK SNOWMAN|THUNDER CLOUD AND RAIN"]⟩,
   ⟨0x26C9, "TURNED ", ["WHITE SHOGI PIECE|BLACK SHOGI PIECE"]⟩,
   ⟨0x26CB, "", ["WHITE DIAMOND IN SQUARE|CROSSING LANES|DISABLED CAR|OPHIUCHUS|PICK|CAR SLIDING",
     "HELMET WITH WHITE CROSS|CIRCLED CROSSING LANES|CHAINS|NO ENTRY",
     "ALTERNATE ONE-WAY LEFT WAY TRAFFIC|BLACK TWO-WAY LEFT WAY TRAFFIC",
     "WHITE TWO-WAY LEFT WAY TRAFFIC|BLACK LEFT LANE MERGE|WHITE LEFT LANE MERGE|DRIVE SLOW SIGN",
     "HEAVY WHITE DOWN-POINTING TRIANGLE|LEFT CLOSED ENTRY|SQUARED SALTIRE",
     "FALLING DIAGONAL IN WHITE CIRCLE IN BLACK SQUARE|BLACK TRUCK"]⟩,
   ⟨0x26E0, "RESTRICTED LEFT ", ["ENTRY-1|ENTRY-2"]⟩,
   ⟨0x26E2, "", ["ASTRONOMICAL SYMBOL FOR URANUS|HEAVY CIRCLE WITH STROKE AND TWO DOTS ABOVE",
     "PENTAGRAM|RIGHT-HANDED INTERLACED PENTAGRAM|LEFT-HANDED INTERLACED PENTAGRAM",
     "INVERTED PENTAGRAM|BLACK CROSS ON SHIELD|SHINTO SHRINE|CHURCH|CASTLE|HISTORIC SITE"]⟩,
   ⟨0x26ED, "GEAR ", ["WITHOUT HUB|WITH HANDLES"]⟩,
   ⟨0x26EF, "", ["MAP SYMBOL FOR LIGHTHOUSE|MOUNTAIN|UMBRELLA ON GROUND|FOUNTAIN|FLAG IN HOLE|FERRY",
     "SAILBOAT|SQUARE FOUR CORNERS|SKIER|ICE SKATE|PERSON WITH BALL|TENT|JAPANESE BANK SYMBOL",
     "HEADSTONE GRAVEYARD SYMBOL|FUEL PUMP|CUP ON BLACK SQUARE",
     "WHITE FLAG WITH HORIZONTAL MIDDLE BLACK STRIPE|BLACK SAFETY SCISSORS|UPPER BLADE SCISSORS",
     "BLACK SCISSORS|LOWER BLADE SCISSORS"]⟩,
   ⟨0x2704, "WHITE ", ["SCISSORS|HEAVY CHECK MARK"]⟩,
   ⟨0x2706, "", ["TELEPHONE LOCATION SIGN|TAPE DRIVE|AIRPLANE|ENVELOPE"]⟩,
   ⟨0x270A, "RAISED ", ["FIST|HAND"]⟩,
   ⟨0x270C, "", ["VICTORY HAND|WRITING HAND|LOWER RIGHT PENCIL|PENCIL|UPPER RIGHT PENCIL|WHITE NIB",
     "BLACK NIB|CHECK MARK|HEAVY CHECK MARK|MULTIPLICATION X|HEAVY MULTIPLICATION X|BALLOT X",
     "HEAVY BALLOT X|OUTLINED GREEK CROSS|HEAVY GREEK CROSS|OPEN CENTRE CROSS",
     "HEAVY OPEN CENTRE CROSS|LATIN CROSS|SHADOWED WHITE LATIN CROSS|OUTLINED LATIN CROSS",
     "MALTESE CROSS|STAR OF DAVID"]⟩,
   ⟨0x2722, "FOUR ", ["TEARDROP-SPOKED ASTERISK|BALLOON-SPOKED ASTERISK"]⟩,
   ⟨0x2724, "", ["HEAVY FOUR BALLOON-SPOKED ASTERISK|FOUR CLUB-SPOKED ASTERISK",
     "BLACK FOUR POINTED STAR|WHITE FOUR POINTED STAR|SPARKLES|STRESS OUTLINED WHITE STAR",
     "CIRCLED WHITE STAR|OPEN CENTRE BLACK STAR|BLACK CENTRE WHITE STAR|OUTLINED BLACK STAR",
     "HEAVY OUTLINED BLACK STAR|PINWHEEL STAR|SHADOWED WHITE STAR|HEAVY ASTERISK",
     "OPEN CENTRE ASTERISK"]⟩,
   ⟨0x2733, "EIGHT ", ["SPOKED ASTERISK|POINTED BLACK STAR|POINTED PINWHEEL STAR"]⟩,
   ⟨0x2736, "", ["SIX POINTED BLACK STAR|EIGHT POINTED RECTILINEAR BLACK STAR",
     "HEAVY EIGHT POINTED RECTILINEAR BLACK STAR|TWELVE POINTED BLACK STAR|SIXTEEN POINTED ASTERISK",
     "TEARDROP-SPOKED ASTERISK|OPEN CENTRE TEARDROP-SPOKED ASTERISK|HEAVY TEARDROP-SPOKED ASTERISK",
     "SIX PETALLED BLACK AND WHITE FLORETTE|BLACK FLORETTE|WHITE FLORETTE",
     "EIGHT PETALLED OUTLINED BLACK FLORETTE|CIRCLED OPEN CENTRE EIGHT POINTED STAR",
     "HEAVY TEARDROP-SPOKED PINWHEEL ASTERISK|SNOWFLAKE|TIGHT TRIFOLIATE SNOWFLAKE",
     "HEAVY CHEVRON SNOWFLAKE|SPARKLE|HEAVY SPARKLE|BALLOON-SPOKED ASTERISK",
     "EIGHT TEARDROP-SPOKED PROPELLER ASTERISK|HEAVY EIGHT TEARDROP-SPOKED PROPELLER ASTERISK",
     "CROSS MARK|SHADOWED WHITE CIRCLE|NEGATIVE SQUARED CROSS MARK",
     "LOWER RIGHT DROP-SHADOWED WHITE SQUARE|UPPER RIGHT DROP-SHADOWED WHITE SQUARE",
     "LOWER RIGHT SHADOWED WHITE SQUARE|UPPER RIGHT SHADOWED WHITE SQUARE",
     "BLACK QUESTION MARK ORNAMENT"]⟩,
   ⟨0x2754, "WHITE ", ["QUESTION MARK ORNAMENT|EXCLAMATION MARK ORNAMENT"]⟩,
   ⟨0x2756, "", ["BLACK DIAMOND MINUS WHITE X|HEAVY EXCLAMATION MARK SYMBOL|LIGHT VERTICAL BAR",
     "MEDIUM VERTICAL BAR"]⟩,
   ⟨0x275A, "HEAVY ", ["VERTICAL BAR|SINGLE TURNED COMMA QUOTATION MARK ORNAMENT",
     "SINGLE COMMA QUOTATION MARK ORNAMENT|DOUBLE TURNED COMMA QUOTATION MARK ORNAMENT",
     "DOUBLE COMMA QUOTATION MARK ORNAMENT|LOW SINGLE COMMA QUOTATION MARK ORNAMENT",
     "LOW DOUBLE COMMA QUOTATION MARK ORNAMENT"]⟩,
   ⟨0x2761, "", ["CURVED STEM PARAGRAPH SIGN ORNAMENT"]⟩,
   ⟨0x2762, "HEAVY ", ["EXCLAMATION MARK ORNAMENT|HEART EXCLAMATION MARK ORNAMENT|BLACK HEART"]⟩,
   ⟨0x2765, "", ["ROTATED HEAVY BLACK HEART BULLET|FLORAL HEART|ROTATED FLORAL HEART BULLET"]⟩,
   ⟨0x2768, "MEDIUM ", ["LEFT PARENTHESIS ORNAMENT|RIGHT PARENTHESIS ORNAMENT",
     "FLATTENED LEFT PARENTHESIS ORNAMENT|FLATTENED RIGHT PARENTHESIS ORNAMENT",
     "LEFT-POINTING ANGLE BRACKET ORNAMENT|RIGHT-POINTING ANGLE BRACKET ORNAMENT"]⟩,
   ⟨0x276E, "HEAVY ", ["LEFT-POINTING ANGLE QUOTATION MARK ORNAMENT",
     "RIGHT-POINTING ANGLE QUOTATION MARK ORNAMENT|LEFT-POINTING ANGLE BRACKET ORNAMENT",
     "RIGHT-POINTING ANGLE BRACKET ORNAMENT"]⟩,
   ⟨0x2772, "LIGHT ", ["LEFT TORTOISE SHELL BRACKET ORNAMENT|RIGHT TORTOISE SHELL BRACKET ORNAMENT"]⟩,
   ⟨0x2774, "MEDIUM ", ["LEFT CURLY BRACKET ORNAMENT|RIGHT CURLY BRACKET ORNAMENT"]⟩,
   ⟨0x2776, "DINGBAT NEGATIVE CIRCLED DIGIT ", ["ONE|TWO|THREE|FOUR|FIVE|SIX|SEVEN|EIGHT|NINE"]⟩,
   ⟨0x277F, "DINGBAT ", ["NEGATIVE CIRCLED NUMBER TEN|CIRCLED SANS-SERIF DIGIT ONE",
     "CIRCLED SANS-SERIF DIGIT TWO|CIRCLED SANS-SERIF DIGIT THREE|CIRCLED SANS-SERIF DIGIT FOUR",
     "CIRCLED SANS-SERIF DIGIT FIVE|CIRCLED SANS-SERIF DIGIT SIX|CIRCLED SANS-SERIF DIGIT SEVEN",
     "CIRCLED SANS-SERIF DIGIT EIGHT|CIRCLED SANS-SERIF DIGIT NINE|CIRCLED SANS-SERIF NUMBER TEN",
     "NEGATIVE CIRCLED SANS-SERIF DIGIT ONE|NEGATIVE CIRCLED SANS-SERIF DIGIT TWO",
     "NEGATIVE CIRCLED SANS-SERIF DIGIT THREE|NEGATIVE CIRCLED SANS-SERIF DIGIT FOUR",
     "NEGATIVE CIRCLED SANS-SERIF DIGIT FIVE|NEGATIVE CIRCLED SANS-SERIF DIGIT SIX",
     "NEGATIVE CIRCLED SANS-SERIF DIGIT SEVEN|NEGATIVE CIRCLED SANS-SERIF DIGIT EIGHT",
     "NEGATIVE CIRCLED SANS-SERIF DIGIT NINE|NEGATIVE CIRCLED SANS-SERIF NUMBER TEN"]⟩,
   ⟨0x2794, "HEAVY ", ["WIDE-HEADED RIGHTWARDS ARROW|PLUS SIGN|MINUS SIGN|DIVISION SIGN",
     "SOUTH EAST ARROW|RIGHTWARDS ARROW|NORTH EAST ARROW"]⟩,
   ⟨0x279B, "", ["DRAFTING POINT RIGHTWARDS ARROW|HEAVY ROUND-TIPPED RIGHTWARDS ARROW",
     "TRIANGLE-HEADED RIGHTWARDS ARROW|HEAVY TRIANGLE-HEADED RIGHTWARDS ARROW",
     "DASHED TRIANGLE-HEADED RIGHTWARDS ARROW|HEAVY DASHED TRIANGLE-HEADED RIGHTWARDS ARROW",
     "BLACK RIGHTWARDS ARROW"]⟩,
   ⟨0x27A2, "THREE-D ", ["TOP-LIGHTED RIGHTWARDS ARROWHEAD|BOTTOM-LIGHTED RIGHTWARDS ARROWHEAD"]⟩,
   ⟨0x27A4, "", ["BLACK RIGHTWARDS ARROWHEAD"]⟩,
   ⟨0x27A5, "HEAVY BLACK CURVED ", ["DOWNWARDS AND RIGHTWARDS ARROW|UPWARDS AND RIGHTWARDS ARROW"]⟩,
   ⟨0x27A7, "", ["SQUAT BLACK RIGHTWARDS ARROW|HEAVY CONCAVE-POINTED BLACK RIGHTWARDS ARROW",
     "RIGHT-SHADED WHITE RIGHTWARDS ARROW|LEFT-SHADED WHITE RIGHTWARDS ARROW",
     "BACK-TILTED SHADOWED WHITE RIGHTWARDS ARROW|FRONT-TILTED SHADOWED WHITE RIGHTWARDS ARROW"]⟩,
   ⟨0x27AD, "HEAVY ", ["LOWER RIGHT-SHADOWED WHITE RIGHTWARDS ARROW",
     "UPPER RIGHT-SHADOWED WHITE RIGHTWARDS ARROW"]⟩,
   ⟨0x27AF, "", ["NOTCHED LOWER RIGHT-SHADOWED WHITE RIGHTWARDS ARROW|CURLY LOOP",
     "NOTCHED UPPER RIGHT-SHADOWED WHITE RIGHTWARDS ARROW|CIRCLED HEAVY WHITE RIGHTWARDS ARROW",
     "WHITE-FEATHERED RIGHTWARDS ARROW"]⟩,
   ⟨0x27B4, "BLACK-FEATHERED ", ["SOUTH EAST ARROW|RIGHTWARDS ARROW|NORTH EAST ARROW"]⟩,
   ⟨0x27B7, "HEAVY BLACK-FEATHERED ", ["SOUTH EAST ARROW|RIGHTWARDS ARROW|NORTH EAST ARROW"]⟩,
   ⟨0x27BA, "", ["TEARDROP-BARBED RIGHTWARDS ARROW|HEAVY TEARDROP-SHANKED RIGHTWARDS ARROW",
     "WEDGE-TAILED RIGHTWARDS ARROW|HEAVY WEDGE-TAILED RIGHTWARDS ARROW",
     "OPEN-OUTLINED RIGHTWARDS ARROW|DOUBLE CURLY LOOP|THREE DIMENSIONAL ANGLE",
     "WHITE TRIANGLE CONTAINING SMALL WHITE TRIANGLE|PERPENDICULAR"]⟩,
   ⟨0x27C3, "OPEN ", ["SUBSET|SUPERSET"]⟩,
   ⟨0x27C5, "", ["LEFT S-SHAPED BAG DELIMITER|RIGHT S-SHAPED BAG DELIMITER|OR WITH DOT INSIDE",
     "REVERSE SOLIDUS PRECEDING SUBSET|SUPERSET PRECEDING SOLIDUS",
     "VERTICAL BAR WITH HORIZONTAL STROKE|MATHEMATICAL RISING DIAGONAL|LONG DIVISION",
     "MATHEMATICAL FALLING DIAGONAL"]⟩,
   ⟨0x27CE, "SQUARED LOGICAL ", ["AND|OR"]⟩,
   ⟨0x27D0, "", ["WHITE DIAMOND WITH CENTRED DOT|AND WITH DOT|ELEMENT OF OPENING UPWARDS",
     "LOWER RIGHT CORNER WITH DOT|UPPER LEFT CORNER WITH DOT|LEFT OUTER JOIN|RIGHT OUTER JOIN",
     "FULL OUTER JOIN"]⟩,
   ⟨0x27D8, "LARGE ", ["UP TACK|DOWN TACK"]⟩,
   ⟨0x27DA, "LEFT AND RIGHT ", ["DOUBLE TURNSTILE|TACK"]⟩,
   ⟨0x27DC, "", ["LEFT MULTIMAP"]⟩,
   ⟨0x27DD, "LONG ", ["RIGHT TACK|LEFT TACK"]⟩,
   ⟨0x27DF, "", ["UP TACK WITH CIRCLE ABOVE|LOZENGE DIVIDED BY HORIZONTAL RULE"]⟩,
   ⟨0x27E1, "WHITE CONCAVE-SIDED ", ["DIAMOND|DIAMOND WITH LEFTWARDS TICK",
     "DIAMOND WITH RIGHTWARDS TICK"]⟩,
   ⟨0x27E4, "WHITE SQUARE WITH ", ["LEFTWARDS TICK|RIGHTWARDS TICK"]⟩,
   ⟨0x27E6, "MATHEMATICAL ", ["LEFT WHITE SQUARE BRACKET|RIGHT WHITE SQUARE BRACKET",
     "LEFT ANGLE BRACKET|RIGHT ANGLE BRACKET|LEFT DOUBLE ANGLE BRACKET|RIGHT DOUBLE ANGLE BRACKET",
     "LEFT WHITE TORTOISE SHELL BRACKET|RIGHT WHITE TORTOISE SHELL BRACKET",
     "LEFT FLATTENED PARENTHESIS|RIGHT FLATTENED PARENTHESIS"]⟩,
   ⟨0x27F0, "", ["UPWARDS QUADRUPLE ARROW|DOWNWARDS QUADRUPLE ARROW",
     "ANTICLOCKWISE GAPPED CIRCLE ARROW|CLOCKWISE GAPPED CIRCLE ARROW",
     "RIGHT ARROW WITH CIRCLED PLUS"]⟩,
   ⟨0x27F5, "LONG ", ["LEFTWARDS ARROW|RIGHTWARDS ARROW|LEFT RIGHT ARROW|LEFTWARDS DOUBLE ARROW",
     "RIGHTWARDS DOUBLE ARROW|LEFT RIGHT DOUBLE ARROW|LEFTWARDS ARROW FROM BAR",
     "RIGHTWARDS ARROW FROM BAR|LEFTWARDS DOUBLE ARROW FROM BAR|RIGHTWARDS DOUBLE ARROW FROM BAR",
     "RIGHTWARDS SQUIGGLE ARROW"]⟩]

/-- Ligatures and the forms of wide and narrow print. -/
def formNames : List NameRow :=
  [⟨0xFB00, "LATIN SMALL LIGATURE ", ["FF|FI|FL|FFI|FFL|LONG S T|ST"]⟩,
   ⟨0xFB13, "ARMENIAN SMALL LIGATURE ", ["MEN NOW|MEN ECH|MEN INI|VEW NOW|MEN XEH"]⟩,
   ⟨0xFB1D, "HEBREW ", ["LETTER YOD WITH HIRIQ|POINT JUDEO-SPANISH VARIKA",
     "LIGATURE YIDDISH YOD YOD PATAH|LETTER ALTERNATIVE AYIN|LETTER WIDE ALEF|LETTER WIDE DALET",
     "LETTER WIDE HE|LETTER WIDE KAF|LETTER WIDE LAMED|LETTER WIDE FINAL MEM|LETTER WIDE RESH",
     "LETTER WIDE TAV|LETTER ALTERNATIVE PLUS SIGN|LETTER SHIN WITH SHIN DOT",
     "LETTER SHIN WITH SIN DOT|LETTER SHIN WITH DAGESH AND SHIN DOT",
     "LETTER SHIN WITH DAGESH AND SIN DOT|LETTER ALEF WITH PATAH|LETTER ALEF WITH QAMATS",
     "LETTER ALEF WITH MAPIQ|LETTER BET WITH DAGESH|LETTER GIMEL WITH DAGESH",
     "LETTER DALET WITH DAGESH|LETTER HE WITH MAPIQ|LETTER VAV WITH DAGESH",
     "LETTER ZAYIN WITH DAGESH"]⟩,
   ⟨0xFB38, "HEBREW LETTER ", ["TET WITH DAGESH|YOD WITH DAGESH|FINAL KAF WITH DAGESH",
     "KAF WITH DAGESH|LAMED WITH DAGESH"]⟩,
   ⟨0xFB3E, "", ["HEBREW LETTER MEM WITH DAGESH"]⟩,
   ⟨0xFB40, "HEBREW LETTER ", ["NUN WITH DAGESH|SAMEKH WITH DAGESH"]⟩,
   ⟨0xFB43, "HEBREW LETTER ", ["FINAL PE WITH DAGESH|PE WITH DAGESH"]⟩,
   ⟨0xFB46, "HEBREW LETTER ", ["TSADI WITH DAGESH|QOF WITH DAGESH|RESH WITH DAGESH|SHIN WITH DAGESH",
     "TAV WITH DAGESH|VAV WITH HOLAM|BET WITH RAFE|KAF WITH RAFE|PE WITH RAFE"]⟩,
   ⟨0xFB4F, "", ["HEBREW LIGATURE ALEF LAMED"]⟩,
   ⟨0xFE00, "VARIATION ", ["SELECTOR-1|SELECTOR-2|SELECTOR-3|SELECTOR-4|SELECTOR-5|SELECTOR-6",
     "SELECTOR-7|SELECTOR-8|SELECTOR-9|SELECTOR-10|SELECTOR-11|SELECTOR-12|SELECTOR-13|SELECTOR-14",
     "SELECTOR-15|SELECTOR-16"]⟩,
   ⟨0xFE10, "PRESENTATION FORM FOR VERTICAL ", ["COMMA|IDEOGRAPHIC COMMA|IDEOGRAPHIC FULL STOP|COLON",
     "SEMICOLON|EXCLAMATION MARK|QUESTION MARK|LEFT WHITE LENTICULAR BRACKET",
     "RIGHT WHITE LENTICULAR BRAKCET|HORIZONTAL ELLIPSIS"]⟩,
   ⟨0xFE20, "COMBINING ", ["LIGATURE LEFT HALF|LIGATURE RIGHT HALF|DOUBLE TILDE LEFT HALF",
     "DOUBLE TILDE RIGHT HALF|MACRON LEFT HALF|MACRON RIGHT HALF|CONJOINING MACRON",
     "LIGATURE LEFT HALF BELOW|LIGATURE RIGHT HALF BELOW|TILDE LEFT HALF BELOW",
     "TILDE RIGHT HALF BELOW|MACRON LEFT HALF BELOW|MACRON RIGHT HALF BELOW|CONJOINING MACRON BELOW",
     "CYRILLIC TITLO LEFT HALF|CYRILLIC TITLO RIGHT HALF"]⟩,
   ⟨0xFE30, "PRESENTATION FORM FOR VERTICAL ", ["TWO DOT LEADER|EM DASH|EN DASH|LOW LINE",
     "WAVY LOW LINE|LEFT PARENTHESIS|RIGHT PARENTHESIS|LEFT CURLY BRACKET|RIGHT CURLY BRACKET",
     "LEFT TORTOISE SHELL BRACKET|RIGHT TORTOISE SHELL BRACKET|LEFT BLACK LENTICULAR BRACKET",
     "RIGHT BLACK LENTICULAR BRACKET|LEFT DOUBLE ANGLE BRACKET|RIGHT DOUBLE ANGLE BRACKET",
     "LEFT ANGLE BRACKET|RIGHT ANGLE BRACKET|LEFT CORNER BRACKET|RIGHT CORNER BRACKET",
     "LEFT WHITE CORNER BRACKET|RIGHT WHITE CORNER BRACKET"]⟩,
   ⟨0xFE45, "", ["SESAME DOT|WHITE SESAME DOT"]⟩,
   ⟨0xFE47, "PRESENTATION FORM FOR VERTICAL ", ["LEFT SQUARE BRACKET|RIGHT SQUARE BRACKET"]⟩,
   ⟨0xFE49, "", ["DASHED OVERLINE|CENTRELINE OVERLINE|WAVY OVERLINE|DOUBLE WAVY OVERLINE",
     "DASHED LOW LINE|CENTRELINE LOW LINE|WAVY LOW LINE"]⟩,
   ⟨0xFE50, "SMALL ", ["COMMA|IDEOGRAPHIC COMMA|FULL STOP"]⟩,
   ⟨0xFE54, "SMALL ", ["SEMICOLON|COLON|QUESTION MARK|EXCLAMATION MARK|EM DASH|LEFT PARENTHESIS",
     "RIGHT PARENTHESIS|LEFT CURLY BRACKET|RIGHT CURLY BRACKET|LEFT TORTOISE SHELL BRACKET",
     "RIGHT TORTOISE SHELL BRACKET|NUMBER SIGN|AMPERSAND|ASTERISK|PLUS SIGN|HYPHEN-MINUS",
     "LESS-THAN SIGN|GREATER-THAN SIGN|EQUALS SIGN"]⟩,
   ⟨0xFE68, "SMALL ", ["REVERSE SOLIDUS|DOLLAR SIGN|PERCENT SIGN|COMMERCIAL AT"]⟩,
   ⟨0xFEFF, "", ["ZERO WIDTH NO-BREAK SPACE"]⟩,
   ⟨0xFF01, "FULLWIDTH ", ["EXCLAMATION MARK|QUOTATION MARK|NUMBER SIGN|DOLLAR SIGN|PERCENT SIGN",
     "AMPERSAND|APOSTROPHE|LEFT PARENTHESIS|RIGHT PARENTHESIS|ASTERISK|PLUS SIGN|COMMA|HYPHEN-MINUS",
     "FULL STOP|SOLIDUS|DIGIT ZERO|DIGIT ONE|DIGIT TWO|DIGIT THREE|DIGIT FOUR|DIGIT FIVE|DIGIT SIX",
     "DIGIT SEVEN|DIGIT EIGHT|DIGIT NINE|COLON|SEMICOLON|LESS-THAN SIGN|EQUALS SIGN",
     "GREATER-THAN SIGN|QUESTION MARK|COMMERCIAL AT|LATIN CAPITAL LETTER A|LATIN CAPITAL LETTER B",
     "LATIN CAPITAL LETTER C|LATIN CAPITAL LETTER D|LATIN CAPITAL LETTER E|LATIN CAPITAL LETTER F",
     "LATIN CAPITAL LETTER G|LATIN CAPITAL LETTER H|LATIN CAPITAL LETTER I|LATIN CAPITAL LETTER J",
     "LATIN CAPITAL LETTER K|LATIN CAPITAL LETTER L|LATIN CAPITAL LETTER M|LATIN CAPITAL LETTER N",
     "LATIN CAPITAL LETTER O|LATIN CAPITAL LETTER P|LATIN CAPITAL LETTER Q|LATIN CAPITAL LETTER R",
     "LATIN CAPITAL LETTER S|LATIN CAPITAL LETTER T|LATIN CAPITAL LETTER U|LATIN CAPITAL LETTER V",
     "LATIN CAPITAL LETTER W|LATIN CAPITAL LETTER X|LATIN CAPITAL LETTER Y|LATIN CAPITAL LETTER Z",
     "LEFT SQUARE BRACKET|REVERSE SOLIDUS|RIGHT SQUARE BRACKET|CIRCUMFLEX ACCENT|LOW LINE",
     "GRAVE ACCENT|LATIN SMALL LETTER A|LATIN SMALL LETTER B|LATIN SMALL LETTER C",
     "LATIN SMALL LETTER D|LATIN SMALL LETTER E|LATIN SMALL LETTER F|LATIN SMALL LETTER G",
     "LATIN SMALL LETTER H|LATIN SMALL LETTER I|LATIN SMALL LETTER J|LATIN SMALL LETTER K",
     "LATIN SMALL LETTER L|LATIN SMALL LETTER M|LATIN SMALL LETTER N|LATIN SMALL LETTER O",
     "LATIN SMALL LETTER P|LATIN SMALL LETTER Q|LATIN SMALL LETTER R|LATIN SMALL LETTER S",
     "LATIN SMALL LETTER T|LATIN SMALL LETTER U|LATIN SMALL LETTER V|LATIN SMALL LETTER W",
     "LATIN SMALL LETTER X|LATIN SMALL LETTER Y|LATIN SMALL LETTER Z|LEFT CURLY BRACKET",
     "VERTICAL LINE|RIGHT CURLY BRACKET|TILDE|LEFT WHITE PARENTHESIS|RIGHT WHITE PARENTHESIS"]⟩,
   ⟨0xFF61, "HALFWIDTH ", ["IDEOGRAPHIC FULL STOP|LEFT CORNER BRACKET|RIGHT CORNER BRACKET",
     "IDEOGRAPHIC COMMA|KATAKANA MIDDLE DOT|KATAKANA LETTER WO|KATAKANA LETTER SMALL A",
     "KATAKANA LETTER SMALL I|KATAKANA LETTER SMALL U|KATAKANA LETTER SMALL E",
     "KATAKANA LETTER SMALL O|KATAKANA LETTER SMALL YA|KATAKANA LETTER SMALL YU",
     "KATAKANA LETTER SMALL YO|KATAKANA LETTER SMALL TU|KATAKANA-HIRAGANA PROLONGED SOUND MARK",
     "KATAKANA LETTER A|KATAKANA LETTER I|KATAKANA LETTER U|KATAKANA LETTER E|KATAKANA LETTER O",
     "KATAKANA LETTER KA|KATAKANA LETTER KI|KATAKANA LETTER KU|KATAKANA LETTER KE|KATAKANA LETTER KO",
     "KATAKANA LETTER SA|KATAKANA LETTER SI|KATAKANA LETTER SU|KATAKANA LETTER SE|KATAKANA LETTER SO",
     "KATAKANA LETTER TA|KATAKANA LETTER TI|KATAKANA LETTER TU|KATAKANA LETTER TE|KATAKANA LETTER TO",
     "KATAKANA LETTER NA|KATAKANA LETTER NI|KATAKANA LETTER NU|KATAKANA LETTER NE|KATAKANA LETTER NO",
     "KATAKANA LETTER HA|KATAKANA LETTER HI|KATAKANA LETTER HU|KATAKANA LETTER HE|KATAKANA LETTER HO",
     "KATAKANA LETTER MA|KATAKANA LETTER MI|KATAKANA LETTER MU|KATAKANA LETTER ME|KATAKANA LETTER MO",
     "KATAKANA LETTER YA|KATAKANA LETTER YU|KATAKANA LETTER YO|KATAKANA LETTER RA|KATAKANA LETTER RI",
     "KATAKANA LETTER RU|KATAKANA LETTER RE|KATAKANA LETTER RO|KATAKANA LETTER WA|KATAKANA LETTER N",
     "KATAKANA VOICED SOUND MARK|KATAKANA SEMI-VOICED SOUND MARK|HANGUL FILLER|HANGUL LETTER KIYEOK",
     "HANGUL LETTER SSANGKIYEOK|HANGUL LETTER KIYEOK-SIOS|HANGUL LETTER NIEUN",
     "HANGUL LETTER NIEUN-CIEUC|HANGUL LETTER NIEUN-HIEUH|HANGUL LETTER TIKEUT",
     "HANGUL LETTER SSANGTIKEUT|HANGUL LETTER RIEUL|HANGUL LETTER RIEUL-KIYEOK",
     "HANGUL LETTER RIEUL-MIEUM|HANGUL LETTER RIEUL-PIEUP|HANGUL LETTER RIEUL-SIOS",
     "HANGUL LETTER RIEUL-THIEUTH|HANGUL LETTER RIEUL-PHIEUPH|HANGUL LETTER RIEUL-HIEUH",
     "HANGUL LETTER MIEUM|HANGUL LETTER PIEUP|HANGUL LETTER SSANGPIEUP|HANGUL LETTER PIEUP-SIOS",
     "HANGUL LETTER SIOS|HANGUL LETTER SSANGSIOS|HANGUL LETTER IEUNG|HANGUL LETTER CIEUC",
     "HANGUL LETTER SSANGCIEUC|HANGUL LETTER CHIEUCH|HANGUL LETTER KHIEUKH|HANGUL LETTER THIEUTH",
     "HANGUL LETTER PHIEUPH|HANGUL LETTER HIEUH"]⟩,
   ⟨0xFFC2, "HALFWIDTH HANGUL LETTER ", ["A|AE|YA|YAE|EO|E"]⟩,
   ⟨0xFFCA, "HALFWIDTH HANGUL LETTER ", ["YEO|YE|O|WA|WAE|OE"]⟩,
   ⟨0xFFD2, "HALFWIDTH HANGUL LETTER ", ["YO|U|WEO|WE|WI|YU"]⟩,
   ⟨0xFFDA, "HALFWIDTH HANGUL LETTER ", ["EU|YI|I"]⟩,
   ⟨0xFFE0, "FULLWIDTH ", ["CENT SIGN|POUND SIGN|NOT SIGN|MACRON|BROKEN BAR|YEN SIGN|WON SIGN"]⟩,
   ⟨0xFFE8, "HALFWIDTH ", ["FORMS LIGHT VERTICAL|LEFTWARDS ARROW|UPWARDS ARROW|RIGHTWARDS ARROW",
     "DOWNWARDS ARROW|BLACK SQUARE|WHITE CIRCLE"]⟩,
   ⟨0xFFF9, "INTERLINEAR ANNOTATION ", ["ANCHOR|SEPARATOR|TERMINATOR"]⟩,
   ⟨0xFFFC, "", ["OBJECT REPLACEMENT CHARACTER|REPLACEMENT CHARACTER"]⟩]

end AgentLint.Text
