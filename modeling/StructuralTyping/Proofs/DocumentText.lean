import StructuralTyping.Json.Printer
import StructuralTyping.Json.Reader
import StructuralTyping.Proofs.NumeralText

/-! # Documents read back from their text

`Json.parse?` gives back every document that `compact` or `pretty` writes, as long as the document
is `Proper`: its numerals are canonical and its lone halves are halves of surrogate pairs.  Nothing
is asked of how deep it nests or of its names.

The argument goes through tokens, in three steps that know little of each other.

* `Spells cs ts` is the grammar of token sequences: blanks may stand anywhere between tokens, and a
  word or a numeral must be followed by something that cannot belong to it.
* The scanner finds the tokens that a text spells (`Spells.scan`), by induction over the grammar.
* Both printers spell `tokens j` (`Proper.compact`, `Proper.pretty`), and the reader builds `j` from
  `tokens j` (`Proper.build`).  All three are inductions over the document that carry what follows
  it: the rest of the text, the rest of the tokens, the containers that are open. -/

namespace StructuralTyping.Json

/-! ### Proper documents -/

/-- A half is one of a surrogate pair. -/
def Piece.Proper : Piece → Prop
  | .char _ => True
  | .half code => 0xD800 ≤ code ∧ code < 0xE000

/-- The pieces of a string are characters, so they are proper. -/
theorem proper_pieces (s : String) : ∀ p ∈ pieces s, p.Proper := by
  intro p h
  obtain ⟨c, -, rfl⟩ := List.mem_map.1 h
  trivial

/-- Every numeral of the document is canonical, and every half is one of a surrogate pair. -/
inductive Proper : Json → Prop
  | null : Proper .null
  | bool (b : Bool) : Proper (.bool b)
  | number {n : Numeral} (h : n.Canonical) : Proper (.number n)
  | string {s : List Piece} (h : ∀ p ∈ s, p.Proper) : Proper (.string s)
  | array {items : List Json} (h : ∀ j ∈ items, Proper j) : Proper (.array items)
  | object {members : List (List Piece × Json)} (keys : ∀ m ∈ members, ∀ p ∈ m.1, p.Proper)
      (h : ∀ m ∈ members, Proper m.2) : Proper (.object members)

/-! ### The tokens of a document -/

mutual

/-- The tokens that write a document. -/
def tokens : Json → List Token
  | .null => [.scalar .null]
  | .bool b => [.scalar (.bool b)]
  | .number n => [.scalar (.number n)]
  | .string s => [.string s]
  | .array items => .openArray :: itemTokens items ++ [.closeArray]
  | .object members => .openObject :: memberTokens members ++ [.closeObject]

/-- The tokens of an array's items, with commas in between. -/
def itemTokens : List Json → List Token
  | [] => []
  | [j] => tokens j
  | j :: rest => tokens j ++ .comma :: itemTokens rest

/-- The tokens of an object's members, with commas in between. -/
def memberTokens : List (List Piece × Json) → List Token
  | [] => []
  | [(k, j)] => .string k :: .colon :: tokens j
  | (k, j) :: rest => .string k :: .colon :: tokens j ++ .comma :: memberTokens rest

end

/-! ### Texts that spell tokens -/

/-- The tokens of a single character. -/
inductive Mark : Char → Token → Prop
  | openObject : Mark '\x7b' .openObject
  | closeObject : Mark '\x7d' .closeObject
  | openArray : Mark '[' .openArray
  | closeArray : Mark ']' .closeArray
  | comma : Mark ',' .comma
  | colon : Mark ':' .colon

/-- The words and the canonical numerals. -/
inductive ScalarText : List Char → Json → Prop
  | null : ScalarText "null".toList .null
  | bool (b : Bool) : ScalarText (boolChars b) (.bool b)
  | number {n : Numeral} (h : n.Canonical) : ScalarText n.chars (.number n)

/-- Nothing at the front of the text can belong to a word or a numeral before it. -/
def Delimited : List Char → Prop
  | [] => True
  | c :: _ => c.isLower = false ∧ Scanner.isNumeralChar c = false

/-- The text is made up of these tokens, with blanks around them. -/
inductive Spells : List Char → List Token → Prop
  | done : Spells [] []
  | blank {c : Char} {cs : List Char} {ts : List Token} (h : Scanner.isBlank c = true)
      (rest : Spells cs ts) : Spells (c :: cs) ts
  | mark {c : Char} {t : Token} {cs : List Char} {ts : List Token} (h : Mark c t)
      (rest : Spells cs ts) : Spells (c :: cs) (t :: ts)
  | string {s : List Piece} {cs : List Char} {ts : List Token} (h : ∀ p ∈ s, p.Proper)
      (rest : Spells cs ts) : Spells (stringChars s ++ cs) (.string s :: ts)
  | scalar {w : List Char} {j : Json} {cs : List Char} {ts : List Token} (h : ScalarText w j)
      (ends : Delimited cs) (rest : Spells cs ts) : Spells (w ++ cs) (.scalar j :: ts)

/-- A mark ends the token before it. -/
theorem Mark.delimited {c : Char} {t : Token} (h : Mark c t) (cs : List Char) :
    Delimited (c :: cs) := by
  cases h <;> exact ⟨rfl, rfl⟩

/-- Blanks between tokens spell nothing. -/
theorem Spells.newLine {cs : List Char} {ts : List Token} (rest : Spells cs ts) (level : Nat) :
    Spells (newLine level ++ cs) ts := by
  have spaces : ∀ n, Spells (List.replicate n ' ' ++ cs) ts := by
    intro n
    induction n with
    | zero => exact rest
    | succ n ih => exact .blank rfl ih
  exact .blank rfl (spaces _)

theorem delimited_newLine (level : Nat) (cs : List Char) : Delimited (newLine level ++ cs) :=
  ⟨rfl, rfl⟩

/-! ### Scanning strings -/

namespace Scanner

/-- A hexadecimal digit is read back. -/
theorem hexDigit?_hexDigit (n : Nat) : hexDigit? (hexDigit n) = some (n % 16) := by
  have all : ∀ m < 16, hexDigit? (Nat.digitChar m) = some m := by decide
  exact all (n % 16) (Nat.mod_lt n (by decide))

/-- An escape with four digits is read back as one piece. -/
theorem scan_codeEscape {code : Nat} (h : code < 0x10000) (ps : List Piece) (ts : List Token) :
    (codeEscape code).foldlM step ⟨.string ps, ts⟩ =
      some ⟨.string (pieceOfCode code :: ps), ts⟩ := by
  simp [codeEscape, step, hexDigit?_hexDigit, List.foldlM_cons]
  -- The four digits are those of the code in base sixteen.
  congr 1
  omega

/-- Control characters are no surrogates, so their codes are read back as they were. -/
theorem pieceOfCode_of_control {c : Char} (h : c < ' ') : pieceOfCode c.toNat = .char c := by
  have small : c.toNat < 32 := h
  rw [pieceOfCode, if_neg (by omega), Char.ofNat_toNat]

/-- A unit of a string is read back from what is written for it. -/
theorem scan_pieceChars {p : Piece} (h : p.Proper) (ps : List Piece) (ts : List Token) :
    (pieceChars p).foldlM step ⟨.string ps, ts⟩ = some ⟨.string (p :: ps), ts⟩ := by
  cases p with
  | half code =>
    obtain ⟨low, high⟩ : 0xD800 ≤ code ∧ code < 0xE000 := h
    rw [pieceChars, scan_codeEscape (by omega), pieceOfCode, if_pos ⟨low, high⟩]
  | char c =>
    simp only [pieceChars]
    split
    -- The short escapes are read by computation; what is left is none of their characters.
    all_goals try rfl
    next quote backslash _ _ _ _ _ =>
      split
      · next control =>
        have small : c.toNat < 32 := control
        rw [scan_codeEscape (by omega), pieceOfCode_of_control control]
      · next visible =>
        simp [step, visible, show c ≠ '"' from fun eq => quote eq,
          show c ≠ '\\' from fun eq => backslash eq]

/-- The inside of a string is read back, newest piece first. -/
theorem scan_pieces {s : List Piece} (h : ∀ p ∈ s, p.Proper) (ps : List Piece) (ts : List Token) :
    (s.flatMap pieceChars).foldlM step ⟨.string ps, ts⟩ =
      some ⟨.string (s.reverse ++ ps), ts⟩ := by
  induction s generalizing ps with
  | nil => rfl
  | cons p s ih =>
    obtain ⟨head, tail⟩ := List.forall_mem_cons.1 h
    rw [List.flatMap_cons, List.foldlM_append, scan_pieceChars head]
    simpa using ih tail (p :: ps)

/-- A string is read back as one token. -/
theorem scan_stringChars {s : List Piece} (h : ∀ p ∈ s, p.Proper) (ts : List Token) :
    (stringChars s).foldlM step ⟨.between, ts⟩ = some ⟨.between, .string s :: ts⟩ := by
  have pieces := scan_pieces h [] ts
  rw [stringChars, List.cons_append, List.foldlM_cons, show step ⟨.between, ts⟩ '"' =
    some ⟨.string [], ts⟩ from rfl]
  simp [List.foldlM_append, pieces, step, found]

/-! ### Scanning the other tokens -/

theorem isBlank_iff {c : Char} :
    isBlank c = true ↔ c = ' ' ∨ c = '\t' ∨ c = '\n' ∨ c = '\r' := by
  simp [isBlank, or_assoc]

theorem start_blank {c : Char} (h : isBlank c = true) (s : Scanner) : s.start c = some s := by
  rcases isBlank_iff.1 h with rfl | rfl | rfl | rfl <;> rfl

/-- A mark is a token by itself. -/
theorem start_mark {c : Char} {t : Token} (h : Mark c t) (s : Scanner) :
    s.start c = some (s.found t) := by
  cases h <;> rfl

/-- A digit or a minus sign begins a numeral. -/
theorem start_numeral {c : Char} (h : (c.isDigit || c == '-') = true) (s : Scanner) :
    s.start c = some { s with mode := .numeral [c] } := by
  have visible : isBlank c = false := by
    by_contra blank
    rcases isBlank_iff.1 (Bool.not_eq_false _ ▸ blank) with rfl | rfl | rfl | rfl <;> cases h
  rw [start]
  · simp [visible, h]
  all_goals (rintro rfl; cases h)

/-- Characters of a numeral are gathered until something else follows. -/
theorem scan_numeral {cs : List Char} (h : ∀ c ∈ cs, isNumeralChar c = true) (taken : List Char)
    (ts : List Token) :
    cs.foldlM step ⟨.numeral taken, ts⟩ = some ⟨.numeral (cs.reverse ++ taken), ts⟩ := by
  induction cs generalizing taken with
  | nil => rfl
  | cons c cs ih =>
    obtain ⟨head, tail⟩ := List.forall_mem_cons.1 h
    have taking : step ⟨.numeral taken, ts⟩ c = some ⟨.numeral (c :: taken), ts⟩ := by
      simp [step, head]
    rw [List.foldlM_cons, taking]
    simpa using ih tail (c :: taken)

theorem isNumeralChar_of_isDigit {c : Char} (h : c.isDigit = true) : isNumeralChar c = true := by
  simp [isNumeralChar, h]

theorem isNumeralChar_exponentChars (e : Option Int) :
    ∀ c ∈ Numeral.exponentChars e, isNumeralChar c = true := by
  have digits : ∀ n, ∀ c ∈ Numeral.digits n, isNumeralChar c = true :=
    fun n c h => isNumeralChar_of_isDigit (Numeral.isDigit_of_mem_digits h)
  rcases e with _ | n | n
  · exact fun c h => nomatch h
  · exact List.forall_mem_cons.2 ⟨rfl, List.forall_mem_cons.2 ⟨rfl, digits n⟩⟩
  · exact List.forall_mem_cons.2 ⟨rfl, List.forall_mem_cons.2 ⟨rfl, digits (n + 1)⟩⟩

theorem isNumeralChar_fractionChars {ds : List Char} (h : ∀ c ∈ ds, c.isDigit = true) :
    ∀ c ∈ Numeral.fractionChars ds, isNumeralChar c = true := by
  rcases ds with _ | ⟨d, ds⟩
  · exact fun c h => nomatch h
  · exact List.forall_mem_cons.2 ⟨rfl, fun c member => isNumeralChar_of_isDigit (h c member)⟩

/-- A canonical numeral begins like one and goes on with the characters of one. -/
theorem exists_chars_eq_cons {n : Numeral} (h : n.Canonical) :
    ∃ c cs, n.chars = c :: cs ∧ (c.isDigit || c == '-') = true ∧
      ∀ d ∈ cs, isNumeralChar d = true := by
  have after : ∀ d ∈ Numeral.fractionChars n.fraction ++ Numeral.exponentChars n.exponent,
      isNumeralChar d = true :=
    List.forall_mem_append.2
      ⟨isNumeralChar_fractionChars h.isDigit_fraction, isNumeralChar_exponentChars n.exponent⟩
  have whole : ∀ d ∈ n.whole, isNumeralChar d = true :=
    fun d member => isNumeralChar_of_isDigit (h.isDigit_whole d member)
  rcases sign : n.negative with _ | _
  · obtain ⟨c, ds, eq, digit⟩ := h.exists_whole_eq_cons
    rw [eq] at whole
    refine ⟨c, ds ++ (Numeral.fractionChars n.fraction ++ Numeral.exponentChars n.exponent), ?_,
      by simp [digit], List.forall_mem_append.2 ⟨(List.forall_mem_cons.1 whole).2, after⟩⟩
    simp [Numeral.chars, sign, eq]
  · refine ⟨'-', n.whole ++ (Numeral.fractionChars n.fraction ++
      Numeral.exponentChars n.exponent), ?_, rfl, List.forall_mem_append.2 ⟨whole, after⟩⟩
    simp [Numeral.chars, sign]

/-- A word or a numeral is found when the scanner closes it. -/
theorem scan_scalarText {w : List Char} {j : Json} (h : ScalarText w j) (ts : List Token) :
    (w.foldlM step ⟨.between, ts⟩).bind close = some ⟨.between, .scalar j :: ts⟩ := by
  cases h with
  | null => rfl
  | bool b => cases b <;> rfl
  | @number n canonical =>
    obtain ⟨c, cs, eq, first, others⟩ := exists_chars_eq_cons canonical
    have read := Numeral.ofChars?_chars canonical
    rw [eq] at read
    have started : step ⟨.between, ts⟩ c = some ⟨.numeral [c], ts⟩ := start_numeral first _
    rw [eq, List.foldlM_cons, started]
    simp [scan_numeral others, close, read, found]

/-- A delimiter closes what comes before it. -/
theorem step_delimited {s t : Scanner} (closed : s.close = some t) {c : Char} {cs : List Char}
    (h : Delimited (c :: cs)) : s.step c = t.step c := by
  obtain ⟨mode, found⟩ := s
  -- Only between tokens, in a word and in a numeral is there something to close.
  cases mode with
  | between =>
    obtain rfl := Option.some.inj closed
    rfl
  | word taken =>
    have between : t.mode = .between := by
      obtain ⟨j, -, rfl⟩ := Option.map_eq_some_iff.1 closed
      rfl
    simp [step, h.1, closed, between]
  | numeral taken =>
    have between : t.mode = .between := by
      obtain ⟨n, -, rfl⟩ := Option.map_eq_some_iff.1 closed
      rfl
    simp [step, h.2, closed, between]
  | string ps => cases closed
  | escape ps => cases closed
  | code ps left value => cases closed

/-- If the next character ends the current token, it may as well be closed now. -/
theorem foldlM_delimited {s t : Scanner} (closed : s.close = some t) (between : t.mode = .between)
    {cs : List Char} (h : Delimited cs) :
    (cs.foldlM step s).bind close = (cs.foldlM step t).bind close := by
  cases cs with
  | nil =>
    have again : t.close = some t := by rw [close, between]
    exact closed.trans again.symm
  | cons c cs => rw [List.foldlM_cons, List.foldlM_cons, step_delimited closed h]

end Scanner

/-- The scanner finds the tokens that a text spells. -/
theorem Spells.foldlM_step {cs : List Char} {ts : List Token} (h : Spells cs ts)
    (found : List Token) :
    (cs.foldlM Scanner.step ⟨.between, found⟩).bind Scanner.close =
      some ⟨.between, ts.reverse ++ found⟩ := by
  induction h generalizing found with
  | done => rfl
  | blank h rest ih =>
    have passed : Scanner.step ⟨.between, found⟩ _ = some ⟨.between, found⟩ :=
      Scanner.start_blank h _
    rw [List.foldlM_cons, passed]
    exact ih found
  | @mark c t cs ts h rest ih =>
    have marked : Scanner.step ⟨.between, found⟩ c = some ⟨.between, t :: found⟩ :=
      Scanner.start_mark h _
    rw [List.foldlM_cons, marked]
    simpa using ih (t :: found)
  | @string s cs ts h rest ih =>
    rw [List.foldlM_append, Scanner.scan_stringChars h]
    simpa using ih (.string s :: found)
  | @scalar w j cs ts h ends rest ih =>
    obtain ⟨s, gathered, closed⟩ := Option.bind_eq_some_iff.1 (Scanner.scan_scalarText h found)
    rw [List.foldlM_append, gathered]
    refine (Scanner.foldlM_delimited closed rfl ends).trans ?_
    simpa using ih (.scalar j :: found)

/-- The scanner cuts a text into the tokens that it spells. -/
theorem Spells.scan {cs : List Char} {ts : List Token} (h : Spells cs ts) :
    Json.scan cs = some ts := by
  obtain ⟨s, scanned, closed⟩ := Option.bind_eq_some_iff.1 (h.foldlM_step [])
  simp [Json.scan, scanned, closed]

/-! ### Printing -/

/-- What `print` writes for the document spells its tokens, in front of anything that does not run
into it. -/
def Prints (print : Json → List Char) (j : Json) : Prop :=
  ∀ {cs : List Char} {ts : List Token}, Delimited cs → Spells cs ts →
    Spells (print j ++ cs) (tokens j ++ ts)

section Compact

/-- The items of an array spell their tokens if each of them does. -/
theorem prints_compactItems {items : List Json} (h : ∀ j ∈ items, Prints compactChars j)
    {cs : List Char} {ts : List Token} (rest : Spells cs ts) :
    Spells (compactItems items ++ ']' :: cs) (itemTokens items ++ .closeArray :: ts) := by
  induction items with
  | nil => exact .mark .closeArray rest
  | cons j items ih =>
    obtain ⟨head, tail⟩ := List.forall_mem_cons.1 h
    cases items with
    | nil => exact head (Mark.closeArray.delimited _) (.mark .closeArray rest)
    | cons k items =>
      have both := head (Mark.comma.delimited _) (.mark .comma (ih tail))
      simpa [compactItems, itemTokens] using both

/-- The members of an object spell their tokens if each of their values does. -/
theorem prints_compactMembers {members : List (List Piece × Json)}
    (keys : ∀ m ∈ members, ∀ p ∈ m.1, p.Proper) (h : ∀ m ∈ members, Prints compactChars m.2)
    {cs : List Char} {ts : List Token} (rest : Spells cs ts) :
    Spells (compactMembers members ++ '\x7d' :: cs)
      (memberTokens members ++ .closeObject :: ts) := by
  induction members with
  | nil => exact .mark .closeObject rest
  | cons m members ih =>
    obtain ⟨k, j⟩ := m
    obtain ⟨key, keys⟩ := List.forall_mem_cons.1 keys
    obtain ⟨head, tail⟩ := List.forall_mem_cons.1 h
    cases members with
    | nil =>
      have value := head (Mark.closeObject.delimited _) (.mark .closeObject rest)
      simpa [compactMembers, memberTokens] using Spells.string key (.mark .colon value)
    | cons m members =>
      have value := head (Mark.comma.delimited _) (.mark .comma (ih keys tail))
      simpa [compactMembers, memberTokens] using Spells.string key (.mark .colon value)

/-- A proper document on one line spells its tokens. -/
theorem Proper.compact {j : Json} (h : j.Proper) : Prints compactChars j := by
  induction h with
  | null => exact fun ends rest => .scalar .null ends rest
  | bool b => exact fun ends rest => .scalar (.bool b) ends rest
  | number h => exact fun ends rest => .scalar (.number h) ends rest
  | string h => exact fun _ rest => .string h rest
  | array _ ih =>
    intro cs ts _ rest
    simpa [compactChars, tokens] using Spells.mark .openArray (prints_compactItems ih rest)
  | object keys _ ih =>
    intro cs ts _ rest
    simpa [compactChars, tokens] using Spells.mark .openObject (prints_compactMembers keys ih rest)

end Compact

section Pretty

variable {level : Nat}

/-- The items of an array spell their tokens on lines of their own. -/
theorem prints_prettyItems {items : List Json} (h : ∀ j ∈ items, Prints (prettyChars level) j)
    (outer : Nat) {cs : List Char} {ts : List Token} (rest : Spells cs ts) :
    Spells (prettyItems level items ++ (newLine outer ++ ']' :: cs))
      (itemTokens items ++ .closeArray :: ts) := by
  have last : Spells (newLine outer ++ ']' :: cs) (.closeArray :: ts) :=
    Spells.newLine (.mark .closeArray rest) outer
  induction items with
  | nil => exact last
  | cons j items ih =>
    obtain ⟨head, tail⟩ := List.forall_mem_cons.1 h
    cases items with
    | nil =>
      have item := head (delimited_newLine _ _) last
      simpa [prettyItems, itemTokens] using item.newLine level
    | cons k items =>
      have item := head (Mark.comma.delimited _) (.mark .comma (ih tail))
      simpa [prettyItems, itemTokens] using item.newLine level

/-- The members of an object spell their tokens on lines of their own. -/
theorem prints_prettyMembers {members : List (List Piece × Json)}
    (keys : ∀ m ∈ members, ∀ p ∈ m.1, p.Proper)
    (h : ∀ m ∈ members, Prints (prettyChars level) m.2)
    (outer : Nat) {cs : List Char} {ts : List Token} (rest : Spells cs ts) :
    Spells (prettyMembers level members ++ (newLine outer ++ '\x7d' :: cs))
      (memberTokens members ++ .closeObject :: ts) := by
  have last : Spells (newLine outer ++ '\x7d' :: cs) (.closeObject :: ts) :=
    Spells.newLine (.mark .closeObject rest) outer
  induction members with
  | nil => exact last
  | cons m members ih =>
    obtain ⟨k, j⟩ := m
    obtain ⟨key, keys⟩ := List.forall_mem_cons.1 keys
    obtain ⟨head, tail⟩ := List.forall_mem_cons.1 h
    cases members with
    | nil =>
      have value := head (delimited_newLine _ _) last
      have member := Spells.string key (.mark .colon (.blank (c := ' ') rfl value))
      simpa [prettyMembers, memberTokens] using member.newLine level
    | cons m members =>
      have value := head (Mark.comma.delimited _) (.mark .comma (ih keys tail))
      have member := Spells.string key (.mark .colon (.blank (c := ' ') rfl value))
      simpa [prettyMembers, memberTokens] using member.newLine level

/-- A proper document on several lines spells its tokens, at any level. -/
theorem Proper.pretty {j : Json} (h : j.Proper) (level : Nat) : Prints (prettyChars level) j := by
  induction h generalizing level with
  | null => exact fun ends rest => .scalar .null ends rest
  | bool b => exact fun ends rest => .scalar (.bool b) ends rest
  | number h => exact fun ends rest => .scalar (.number h) ends rest
  | string h => exact fun _ rest => .string h rest
  | @array items _ ih =>
    intro cs ts _ rest
    cases items with
    | nil => exact .mark .openArray (.mark .closeArray rest)
    | cons j items =>
      have inside := prints_prettyItems (fun k member => ih k member (level + 1)) level rest
      simpa [prettyChars, tokens] using Spells.mark .openArray inside
  | @object members keys _ ih =>
    intro cs ts _ rest
    cases members with
    | nil => exact .mark .openObject (.mark .closeObject rest)
    | cons m members =>
      have inside := prints_prettyMembers keys (fun k member => ih k member (level + 1)) level rest
      simpa [prettyChars, tokens] using Spells.mark .openObject inside

end Pretty

/-! ### Building -/

/-- Wherever a value may come, the tokens of the document put it there. -/
def Builds (j : Json) : Prop :=
  ∀ {what : Expected} (opened : List Partial) (ts : List Token),
    what = .value ∨ what = .valueOrClose →
      (tokens j ++ ts).foldlM Building.step (.expecting what opened) =
        ts.foldlM Building.step (Building.put j opened)

/-- The reader takes the tokens of items, one after the other, into the array that is open. -/
theorem builds_items {items : List Json} (h : ∀ j ∈ items, Builds j) (nonempty : items ≠ [])
    {what : Expected} (may : what = .value ∨ what = .valueOrClose) (before : List Json)
    (opened : List Partial) (ts : List Token) :
    (itemTokens items ++ .closeArray :: ts).foldlM Building.step
        (.expecting what (.array before :: opened)) =
      ts.foldlM Building.step (Building.put (.array (before.reverse ++ items)) opened) := by
  induction items generalizing what before with
  | nil => exact absurd rfl nonempty
  | cons j items ih =>
    obtain ⟨head, tail⟩ := List.forall_mem_cons.1 h
    cases items with
    | nil =>
      rw [itemTokens, head _ _ may]
      simp [Building.put, Building.step, Building.close]
    | cons k items =>
      have others := ih tail (List.cons_ne_nil k items) (.inl rfl) (j :: before)
      rw [itemTokens, List.append_assoc, head _ _ may]
      · simpa [Building.put, Building.step, Building.afterComma] using others
      · exact List.cons_ne_nil k items

/-- The reader takes the tokens of members into the object that is open. -/
theorem builds_members {members : List (List Piece × Json)} (h : ∀ m ∈ members, Builds m.2)
    (nonempty : members ≠ []) {what : Expected} (may : what = .key ∨ what = .keyOrClose)
    (before : List (List Piece × Json)) (key : List Piece) (opened : List Partial)
    (ts : List Token) :
    (memberTokens members ++ .closeObject :: ts).foldlM Building.step
        (.expecting what (.object before key :: opened)) =
      ts.foldlM Building.step (Building.put (.object (before.reverse ++ members)) opened) := by
  induction members generalizing what before key with
  | nil => exact absurd rfl nonempty
  | cons m members ih =>
    obtain ⟨k, j⟩ := m
    obtain ⟨head, tail⟩ := List.forall_mem_cons.1 h
    -- A key and its colon leave the member open for its value.
    have named : ∀ rest, (.string k :: .colon :: rest).foldlM Building.step
        (.expecting what (.object before key :: opened)) =
        rest.foldlM Building.step (.expecting .value (.object before k :: opened)) := by
      intro rest
      rcases may with rfl | rfl <;> rfl
    cases members with
    | nil =>
      rw [memberTokens, List.cons_append, List.cons_append, named, head _ _ (.inl rfl)]
      simp [Building.put, Building.step, Building.close]
    | cons m members =>
      have others := ih tail (List.cons_ne_nil m members) (.inl rfl) ((k, j) :: before) []
      rw [memberTokens]
      · simp only [List.cons_append, List.append_assoc]
        rw [named, head _ _ (.inl rfl)]
        simpa [Building.put, Building.step, Building.afterComma] using others
      · exact List.cons_ne_nil m members

/-- The reader takes the tokens of a value for that value, in any place. -/
theorem Proper.build {j : Json} (h : j.Proper) : Builds j := by
  induction h with
  | null => rintro _ opened ts (rfl | rfl) <;> rfl
  | bool b => rintro _ opened ts (rfl | rfl) <;> rfl
  | number _ => rintro _ opened ts (rfl | rfl) <;> rfl
  | string _ => rintro _ opened ts (rfl | rfl) <;> rfl
  | @array items _ ih =>
    intro what opened ts may
    have begun : Building.step (.expecting what opened) .openArray =
        some (.expecting .valueOrClose (.array [] :: opened)) := by
      rcases may with rfl | rfl <;> rfl
    rw [tokens, List.cons_append, List.cons_append, List.foldlM_cons, begun, List.append_assoc]
    cases items with
    | nil => rfl
    | cons j items => exact builds_items ih (List.cons_ne_nil j items) (.inr rfl) [] opened ts
  | @object members _ _ ih =>
    intro what opened ts may
    have begun : Building.step (.expecting what opened) .openObject =
        some (.expecting .keyOrClose (.object [] [] :: opened)) := by
      rcases may with rfl | rfl <;> rfl
    rw [tokens, List.cons_append, List.cons_append, List.foldlM_cons, begun, List.append_assoc]
    cases members with
    | nil => rfl
    | cons m members =>
      exact builds_members ih (List.cons_ne_nil m members) (.inr rfl) [] [] opened ts

/-- A document is read back from its tokens. -/
theorem Proper.ofTokens? {j : Json} (h : j.Proper) : Json.ofTokens? (tokens j) = some j := by
  have built := h.build [] [] (.inl rfl)
  rw [List.append_nil] at built
  rw [Json.ofTokens?, built]
  rfl

/-! ### Reading back -/

/-- A text that spells the tokens of a document is read as that document. -/
theorem Prints.parse? {print : Json → List Char} {j : Json} (printed : Prints print j)
    (h : j.Proper) : Json.parse? (String.ofList (print j)) = some j := by
  have followed : Spells (print j ++ []) (tokens j ++ []) := printed trivial .done
  have spelled : Spells (print j) (tokens j) := by simpa using followed
  rw [Json.parse?, String.toList_ofList, spelled.scan]
  exact h.ofTokens?

/-- A document on one line is read back. -/
theorem Proper.parse?_compact {j : Json} (h : j.Proper) :
    Json.parse? (Json.compact j) = some j := Prints.parse? h.compact h

/-- A document on several lines is read back. -/
theorem Proper.parse?_pretty {j : Json} (h : j.Proper) :
    Json.parse? (Json.pretty j) = some j := Prints.parse? (h.pretty 0) h

end StructuralTyping.Json
