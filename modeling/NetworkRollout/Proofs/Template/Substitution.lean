import Mathlib.Data.List.Infix
import NetworkRollout.Manifest.Directory
import NetworkRollout.Proofs.Text.Pieces

/-!
# Substitution in templates

A template of plain texts with references between them is rendered in one pass: the plain texts stay
as they are, and for each reference the value of its key is written, whatever the value looks like.
A key without a value fails the template, and the failure begins with the source.

* `Template.Literal`, `Template.Reference`, `Template.Sheet`: plain texts, references and templates
  made of them.
* `Template.Data`: the texts and truth values that keys stand for.
* `Template.Sheet.pieces?_text`, `Template.Node.ofPieces?_map_piece`,
  `Template.Sheet.renderAll?_parts`: a sheet through the three stages of rendering.
* `Template.Sheet.renderAt_text`: what becomes of a sheet.
-/

namespace NetworkRollout

/-- The detail of a failure begins with the source. -/
theorem Failure.exists_located (source : String) :
    ∃ rest, (Failure.located source).toList = source.toList ++ rest := by
  unfold Failure.located
  split
  case isTrue h =>
    rw [h]
    exact ⟨_, rfl⟩
  case isFalse => exact ⟨_, by rw [String.toList_append, String.toList_append, List.append_assoc]⟩

namespace Template

variable {s rest : List Char}

/-! ## Plain texts -/

/-- The beginnings of tags and comments. -/
def marks : List (List Char) := [['$', '\x7b'], ['\x7b', '%'], ['\x7b', '#']]

/-- A text in which no mark stands. -/
structure Literal where
  text : List Char
  plain : ∀ mark ∈ marks, ¬ mark <:+: text

theorem opening?_eq_none (h : ∀ mark ∈ marks, ¬ mark <+: s) : opening? s = none := by
  unfold opening?
  split
  case h_1 => exact absurd ⟨_, rfl⟩ (h ['$', '\x7b'] (by decide))
  case h_2 => exact absurd ⟨_, rfl⟩ (h ['\x7b', '%'] (by decide))
  case h_3 => exact absurd ⟨_, rfl⟩ (h ['\x7b', '#'] (by decide))
  case h_4 => rfl

/-- What follows a plain text: nothing, or a reference. -/
def Follows (rest : List Char) : Prop := rest = [] ∨ ∃ inner, rest = '$' :: '\x7b' :: inner

/-- No mark lies across the end of a plain text. -/
theorem opening?_append {c : Char} (h : ∀ mark ∈ marks, ¬ mark <:+: c :: s)
    (hrest : Follows rest) : opening? (c :: (s ++ rest)) = none := by
  refine opening?_eq_none fun mark hmark hfront => ?_
  cases s with
  | nil =>
    rcases hrest with rfl | ⟨inner, rfl⟩
    · exact h mark hmark hfront.isInfix
    · revert mark
      simp [marks]
  | cons d s =>
    refine h mark hmark (List.IsPrefix.isInfix ?_)
    revert mark
    simp [marks]

theorem beforeMark_append (h : ∀ mark ∈ marks, ¬ mark <:+: s) (hrest : Follows rest) :
    beforeMark (s ++ rest) = s ∧ fromMark (s ++ rest) = rest := by
  induction s with
  | nil =>
    rcases hrest with rfl | ⟨inner, rfl⟩
    · exact ⟨rfl, rfl⟩
    · exact ⟨rfl, rfl⟩
  | cons c s ih =>
    obtain ⟨hbefore, hfrom⟩ := ih fun mark hmark hinside =>
      h mark hmark (hinside.trans (List.suffix_cons c s).isInfix)
    rw [List.cons_append, beforeMark, fromMark, opening?_append h hrest, hbefore, hfrom]
    exact ⟨rfl, rfl⟩

/-! ## References -/

/-- A name in capitals: letters, digits and underscores, and no digit in front. -/
structure IsKey (s : List Char) : Prop where
  chars : ∀ c ∈ s, c.isUpper = true ∨ c.isDigit = true ∨ c = '_'
  first : ∃ c, s.head? = some c ∧ c.isDigit = false

/-- A key with blanks around it. -/
structure Reference where
  before : List Char
  name : List Char
  behind : List Char
  blanks : ∀ c ∈ before ++ behind, isGap c = true
  isKey : IsKey name

namespace Reference

def key (r : Reference) : String := String.ofList r.name

/-- What stands behind the first mark. -/
def inner (r : Reference) (rest : List Char) : List Char :=
  r.before ++ (r.name ++ (r.behind ++ '\x7d' :: rest))

def text (r : Reference) : List Char := '$' :: '\x7b' :: r.inner []

end Reference

theorem isNamePart_of_gap {c : Char} (h : isGap c = true) : isNamePart c = false := by
  unfold isGap at h
  simp only [Bool.or_eq_true, decide_eq_true_eq] at h
  rcases h with (((rfl | rfl) | rfl) | rfl) | rfl <;> decide

namespace IsKey

theorem isNamePart (h : IsKey s) : ∀ c ∈ s, Template.isNamePart c = true := by
  intro c hc
  rcases h.chars c hc with hupper | hdigit | hscore
  · unfold Template.isNamePart Char.isAlphanum Char.isAlpha
    rw [hupper]
    rfl
  · unfold Template.isNamePart Char.isAlphanum
    rw [hdigit, Bool.or_true]
    rfl
  · simp [Template.isNamePart, hscore]

theorem exists_eq_cons (h : IsKey s) :
    ∃ c cs, s = c :: cs ∧ isNameStart c = true ∧ c.isDigit = false := by
  obtain ⟨c, hc, hdigit⟩ := h.first
  obtain ⟨cs, rfl⟩ := List.head?_eq_some_iff.mp hc
  refine ⟨c, cs, rfl, ?_, hdigit⟩
  simpa [Template.isNamePart, isNameStart, Char.isAlphanum, hdigit] using
    h.isNamePart c List.mem_cons_self

/-- No key is a word with a small letter in it. -/
theorem ne_word (h : IsKey s) {word : String} (hword : word.toList.any Char.isLower = true) :
    String.ofList s ≠ word := by
  rintro rfl
  obtain ⟨c, hc, hlower⟩ := List.any_eq_true.mp hword
  rw [String.toList_ofList] at hc
  have hrange : 97 ≤ c.val.toNat := by
    unfold Char.isLower at hlower
    simp only [Bool.and_eq_true, decide_eq_true_eq, ge_iff_le, UInt32.le_iff_toNat_le] at hlower
    exact hlower.1
  rcases h.chars c hc with hupper | hdigit | rfl
  · unfold Char.isUpper at hupper
    simp only [decide_eq_true_eq, UInt32.le_iff_toNat_le] at hupper
    exact absurd (hrange.trans hupper.2) (by decide)
  · unfold Char.isDigit at hdigit
    simp only [Bool.and_eq_true, decide_eq_true_eq, UInt32.le_iff_toNat_le] at hdigit
    exact absurd (hrange.trans hdigit.2) (by decide)
  · cases hlower

end IsKey

theorem ne_of_isNamePart {c d : Char} (hc : isNamePart c = true) (hd : isNamePart d = false) :
    c ≠ d := by
  rintro rfl
  rw [hc] at hd
  cases hd

/-- At a character of a name no tag closes. -/
theorem close?_of_isNamePart {c : Char} (h : isNamePart c = true) :
    Tag.output.close? (c :: s) = none := by
  have hminus : '-' ≠ c := (ne_of_isNamePart h rfl).symm
  have hplus : '+' ≠ c := (ne_of_isNamePart h rfl).symm
  have hbrace : '\x7d' ≠ c := (ne_of_isNamePart h rfl).symm
  simp [Tag.close?, Tag.closing, behind?, List.isPrefixOf, hminus, hplus, hbrace]

/-- A key that ends is the first word of a text. -/
theorem first?_of_isKey (h : IsKey s) (hends : ∀ c, rest.head? = some c → isNamePart c = false) :
    Lexeme.first? (s ++ rest) = some (.name (String.ofList s), rest) := by
  obtain ⟨c, cs, rfl, hstart, hdigit⟩ := h.exists_eq_cons
  obtain ⟨hfirst, hparts⟩ := List.forall_mem_cons.mp h.isNamePart
  have hdouble : c ≠ '"' := ne_of_isNamePart hfirst rfl
  have hsingle : c ≠ '\'' := ne_of_isNamePart hfirst rfl
  have htake := Text.takeWhile_append_of_ends hparts hends
  have hdrop := Text.dropWhile_append_of_ends hparts hends
  simp [Lexeme.first?, hdouble, hsingle, hdigit, hstart, htake, hdrop]

/-- A key ends where the blanks behind it begin, or at the closing mark. -/
theorem Reference.ends (r : Reference) (rest : List Char) (c : Char)
    (hc : (r.behind ++ '\x7d' :: rest).head? = some c) : isNamePart c = false := by
  cases hbehind : r.behind with
  | nil =>
    rw [hbehind] at hc
    cases hc
    decide
  | cons d behind =>
    rw [hbehind] at hc
    cases hc
    exact isNamePart_of_gap (r.blanks _ (List.mem_append_right _ (hbehind ▸ List.mem_cons_self)))

/-- The body of a reference is its key, and no blanks are dropped behind it. -/
theorem Reference.body? (r : Reference) (rest : List Char) (limit : Nat) :
    Tag.output.body? (limit + 2) 0 (r.inner rest) = some ([.name r.key], false, rest) := by
  have hback : (r.behind ++ '\x7d' :: rest).dropWhile isGap = '\x7d' :: rest := by
    refine Text.dropWhile_append_of_ends (fun d hd => r.blanks d (List.mem_append_right _ hd)) ?_
    rintro d ⟨⟩
    decide
  obtain ⟨c, cs, hname, -, -⟩ := r.isKey.exists_eq_cons
  have hc := r.isKey.isNamePart c (hname ▸ List.mem_cons_self)
  have hfront : (r.inner rest).dropWhile isGap = r.name ++ (r.behind ++ '\x7d' :: rest) := by
    refine Text.dropWhile_append_of_ends (fun d hd => r.blanks d (List.mem_append_left _ hd)) ?_
    rw [hname]
    rintro d ⟨⟩
    rw [Bool.eq_false_iff]
    intro hgap
    rw [isNamePart_of_gap hgap] at hc
    cases hc
  have hopen : Tag.output.close? (r.name ++ (r.behind ++ '\x7d' :: rest)) = none := by
    rw [hname]
    exact close?_of_isNamePart hc
  have hclose : Tag.output.close? ('\x7d' :: rest) = some (false, rest) := rfl
  rw [Tag.body?, hfront]
  simp only [if_true, hopen]
  rw [first?_of_isKey r.isKey (r.ends rest)]
  simp only [Option.bind_eq_bind, Option.bind_some]
  rw [Tag.body?, hback]
  simp only [Lexeme.nesting, Int.add_zero, if_true, hclose]
  rfl

/-- What stands behind the first mark asks for nothing to be dropped. -/
theorem Reference.inner_eq_cons (r : Reference) (rest : List Char) :
    ∃ c cs, r.inner rest = c :: cs ∧ c ≠ '-' ∧ c ≠ '+' := by
  have hne : ∀ c, isGap c = true ∨ isNamePart c = true → c ≠ '-' ∧ c ≠ '+' := by
    rintro c hc
    constructor
    · rintro rfl
      revert hc
      decide
    · rintro rfl
      revert hc
      decide
  cases hbefore : r.before with
  | nil =>
    obtain ⟨c, cs, hname, -, -⟩ := r.isKey.exists_eq_cons
    refine ⟨c, cs ++ (r.behind ++ '\x7d' :: rest), ?_, hne c (Or.inr ?_)⟩
    · rw [inner, hbefore, hname]
      rfl
    · exact r.isKey.isNamePart c (hname ▸ List.mem_cons_self)
  | cons c cs =>
    refine ⟨c, cs ++ (r.name ++ (r.behind ++ '\x7d' :: rest)), ?_, hne c (Or.inl ?_)⟩
    · rw [inner, hbefore]
      rfl
    · exact r.blanks c (List.mem_append_left _ (hbefore ▸ List.mem_cons_self))

/-! ## Templates of both -/

/-- Plain texts with references between them. -/
inductive Sheet where
  | last (l : Literal)
  | next (l : Literal) (r : Reference) (behind : Sheet)

/-- A part of a sheet that is not empty. -/
inductive Part where
  | plain (s : List Char)
  | key (name : String)

namespace Part

def piece : Part → Piece
  | plain s => .text s
  | key name => .tag .output [.name name]

def node : Part → Node
  | plain s => .text s
  | key name => .output (.name name)

def ofText (s : List Char) : List Part := if s.isEmpty then [] else [plain s]

theorem map_piece_ofText (s : List Char) : (ofText s).map piece = textPiece s := by
  cases s <;> rfl

end Part

namespace Sheet

def text : Sheet → List Char
  | last l => l.text
  | next l r behind => l.text ++ (r.text ++ behind.text)

def keys : Sheet → List String
  | last _ => []
  | next _ r behind => r.key :: behind.keys

def parts : Sheet → List Part
  | last l => Part.ofText l.text
  | next l r behind => Part.ofText l.text ++ .key r.key :: behind.parts

theorem piecesFrom?_text (sheet : Sheet) {limit : Nat} (h : sheet.text.length < limit) :
    piecesFrom? limit false sheet.text = some (sheet.parts.map Part.piece) := by
  induction sheet generalizing limit with
  | last l =>
    obtain ⟨limit, rfl⟩ := Nat.exists_eq_add_one_of_ne_zero (Nat.ne_zero_of_lt h)
    obtain ⟨hbefore, hfrom⟩ := beforeMark_append l.plain (Or.inl rfl)
    rw [List.append_nil] at hbefore hfrom
    rw [text, piecesFrom?]
    simp [hbefore, hfrom, opening?, parts, Part.map_piece_ofText]
  | next l r behind ih =>
    obtain ⟨limit, rfl⟩ := Nat.exists_eq_add_one_of_ne_zero (Nat.ne_zero_of_lt h)
    obtain ⟨c, cs, hinner, hminus, hplus⟩ := r.inner_eq_cons behind.text
    have htext : (next l r behind).text = l.text ++ '$' :: '\x7b' :: c :: cs := by
      simp [text, Reference.text, ← hinner, Reference.inner]
    have hcontrol : dropControl (c :: cs) = c :: cs := by
      unfold dropControl
      split <;> simp_all
    have hbody := r.body? behind.text cs.length
    rw [hinner] at hbody
    have hlength : behind.text.length < limit := by
      simp only [text, Reference.text, List.length_append, List.length_cons] at h
      omega
    obtain ⟨hbefore, hfrom⟩ := beforeMark_append l.plain (Or.inr ⟨c :: cs, rfl⟩)
    rw [htext, piecesFrom?]
    simp [hbefore, hfrom, opening?, hminus, hcontrol, hbody, ih hlength, parts,
      Part.map_piece_ofText]
    rfl

theorem pieces?_text (sheet : Sheet) : pieces? sheet.text = some (sheet.parts.map Part.piece) :=
  sheet.piecesFrom?_text (Nat.lt_succ_self _)

end Sheet

/-! ## The data -/

/-- What a key may stand for. -/
inductive Datum where
  | text (s : String)
  | truth (b : Bool)

namespace Datum

def value : Datum → Value
  | text s => .text s
  | truth b => .bool b

/-- A text is written as it is. -/
def written : Datum → List Char
  | text s => s.toList
  | truth b => if b then "True".toList else "False".toList

theorem written_value (d : Datum) : d.value.written.toList = d.written := by
  cases d with
  | text s => rfl
  | truth b => cases b <;> rfl

theorem known?_value (d : Datum) : d.value.known? = some d.value := by
  cases d <;> rfl

end Datum

/-- The data of keys; the first of a key counts. -/
abbrev Data := List (String × Datum)

namespace Data

def values (data : Data) : Variables := data.map fun d => (d.1, d.2.value)

theorem lookup_values (data : Data) (name : String) :
    data.values.lookup name = (data.lookup name).map Datum.value := by
  unfold values
  induction data with
  | nil => rfl
  | cons d data ih =>
    rw [List.map_cons, List.lookup_cons, List.lookup_cons, ih]
    split <;> rfl

/-- What is written for a key that has a value. -/
def written (data : Data) (name : String) : List Char :=
  ((data.lookup name).map Datum.written).getD []

theorem isSome_lookup_iff (data : Data) (name : String) :
    (data.lookup name).isSome ↔ name ∈ data.map (·.1) := by
  rw [List.lookup_isSome_iff, List.mem_map]
  constructor
  · rintro ⟨d, hd, hname⟩
    exact ⟨d, hd, (beq_iff_eq.mp hname).symm⟩
  · rintro ⟨d, hd, rfl⟩
    exact ⟨d, hd, beq_self_eq_true _⟩

end Data

/-! ## Nodes -/

namespace Expression

/-- An operand with nothing behind it is all of its chain. -/
theorem chained?_alone {operand : Reader Expression} {ls : List Lexeme} {e : Expression}
    {joint? : List Lexeme → Option ((Expression → Expression → Expression) × List Lexeme)}
    (h : operand ls = some (e, [])) (hjoint : joint? [] = none) :
    chained? operand joint? ls = some (e, []) := by
  unfold chained?
  rw [h]
  simp only [Option.bind_eq_bind, Option.bind_some]
  rw [chain?, hjoint]

variable {name : String}

theorem unary?_name (inner : Reader Expression)
    (h : ∀ word ∈ ["true", "True", "false", "False"], name ≠ word) :
    unary? inner [.name name] = some (.name name, []) := by
  simp only [List.forall_mem_cons] at h
  simp [unary?, primary?, h, trailers?, filters?]

/-- A name that is no word of expressions stands for itself. -/
theorem ofLexemes?_name (h : ∀ word ∈ ["true", "True", "false", "False", "not"], name ≠ word) :
    ofLexemes? [.name name] = some (.name name, []) := by
  have hnot : name ≠ "not" := h "not" (by decide)
  have hunary := unary?_name (read? 1) fun word hword =>
    h word (List.mem_append_left ["not"] hword)
  have hjoined : chained? (chained? (unary? (read? 1)) joinSign?) comparison? [.name name] =
      some (.name name, []) := chained?_alone (chained?_alone hunary rfl) rfl
  have hnegated : negated? (read? 1) [.name name] = some (.name name, []) := by
    simp [negated?, hnot, hjoined]
  have hsimple : simple? (read? 1) [.name name] = some (.name name, []) :=
    chained?_alone (chained?_alone hnegated rfl) rfl
  change read? 2 [.name name] = _
  rw [read?, hsimple]
  rfl

end Expression

namespace Node

/-- A key is none of the words that expressions are made with. -/
theorem whole?_of_isKey (h : IsKey s) :
    whole? [.name (String.ofList s)] = some (.name (String.ofList s)) := by
  have hwords : ∀ word ∈ ["true", "True", "false", "False", "not"], String.ofList s ≠ word := by
    intro word hword
    refine h.ne_word ?_
    revert word
    decide
  rw [whole?, Expression.ofLexemes?_name hwords]

theorem block?_map_piece {parts : List Part} {limit : Nat}
    (h : ∀ name, Part.key name ∈ parts → whole? [.name name] = some (.name name))
    (hlimit : parts.length < limit) :
    block? limit [] (parts.map Part.piece) = some (parts.map Part.node, [], []) := by
  induction parts generalizing limit with
  | nil =>
    obtain ⟨limit, rfl⟩ := Nat.exists_eq_add_one_of_ne_zero (Nat.ne_zero_of_lt hlimit)
    rfl
  | cons p parts ih =>
    obtain ⟨limit, rfl⟩ := Nat.exists_eq_add_one_of_ne_zero (Nat.ne_zero_of_lt hlimit)
    have hrest := ih (fun name hname => h name (List.mem_cons_of_mem p hname))
      (Nat.lt_of_succ_lt_succ hlimit)
    cases p with
    | plain s =>
      rw [List.map_cons, Part.piece, block?, hrest]
      rfl
    | key name =>
      rw [List.map_cons, Part.piece, block?, h name List.mem_cons_self, hrest]
      rfl

theorem ofPieces?_map_piece {parts : List Part}
    (h : ∀ name, Part.key name ∈ parts → whole? [.name name] = some (.name name)) :
    ofPieces? (parts.map Part.piece) = some (parts.map Part.node) := by
  rw [ofPieces?, List.length_map, block?_map_piece h (Nat.lt_succ_self _)]
  rfl

end Node

/-! ## Rendering -/

/-- A text in front of nodes stays as it is. -/
theorem Node.renderAll?_ofText (s : List Char) (ns : List Node) (scopes : Scopes) :
    renderAll? ((Part.ofText s).map Part.node ++ ns) scopes =
      (renderAll? ns scopes).map fun r => (s ++ r.1, r.2) := by
  cases s with
  | nil => simp [Part.ofText]
  | cons c s =>
    change renderAll? (.text (c :: s) :: ns) scopes = _
    rw [renderAll?, render?]
    simp only [Option.bind_eq_bind, Option.bind_some]
    cases renderAll? ns scopes <;> rfl

/-- For a key in front of nodes its value is written. -/
theorem Node.renderAll?_key (name : String) (ns : List Node) (data : Data) :
    renderAll? (.output (.name name) :: ns) [data.values] =
      (data.lookup name).bind fun d =>
        (renderAll? ns [data.values]).map fun r => (d.written ++ r.1, r.2) := by
  rw [renderAll?, render?, Expression.value?, Scopes.all, List.flatten_singleton,
    Data.lookup_values]
  cases data.lookup name with
  | none => rfl
  | some d =>
    simp only [Option.map_some, Option.getD_some, Option.bind_eq_bind, Option.bind_some,
      Datum.known?_value, Option.pure_def, Datum.written_value]
    cases renderAll? ns [data.values] <;> rfl

namespace Sheet

/-- The plain texts with what is written for each key. -/
def filled (data : Data) : Sheet → List Char
  | last l => l.text
  | next l r behind => l.text ++ (data.written r.key ++ behind.filled data)

theorem renderAll?_parts (sheet : Sheet) (data : Data) :
    Node.renderAll? (sheet.parts.map Part.node) [data.values] =
      if ∀ key ∈ sheet.keys, (data.lookup key).isSome then
        some (sheet.filled data, [data.values])
      else none := by
  induction sheet with
  | last l =>
    rw [parts, ← List.append_nil (List.map _ _), Node.renderAll?_ofText]
    simp [Node.renderAll?, keys, filled]
  | next l r behind ih =>
    rw [parts, List.map_append, List.map_cons, Node.renderAll?_ofText, Part.node,
      Node.renderAll?_key, ih]
    simp only [keys, List.forall_mem_cons, filled, Data.written]
    cases data.lookup r.key with
    | none => simp only [Option.isSome_none, Bool.false_eq_true, false_and, if_false,
        Option.bind_none, Option.map_none]
    | some d =>
      simp only [Option.isSome_some, true_and, Option.bind_some, Option.map_some, Option.getD_some]
      split <;> rfl

theorem whole?_of_mem_parts {sheet : Sheet} {name : String} (h : Part.key name ∈ sheet.parts) :
    Node.whole? [.name name] = some (.name name) := by
  have htext : ∀ s, Part.key name ∉ Part.ofText s := by
    intro s
    cases s <;> simp [Part.ofText]
  induction sheet with
  | last l => exact absurd h (htext _)
  | next l r behind ih =>
    rcases List.mem_append.mp h with h | h
    · exact absurd h (htext _)
    · rcases List.mem_cons.mp h with h | h
      · cases h
        exact Node.whole?_of_isKey r.isKey
      · exact ih h

theorem render?_text (sheet : Sheet) (data : Data) :
    render? (String.ofList sheet.text) data.values =
      if ∀ key ∈ sheet.keys, (data.lookup key).isSome then some (String.ofList (sheet.filled data))
      else none := by
  rw [render?, String.toList_ofList, sheet.pieces?_text]
  simp only [Option.bind_eq_bind, Option.bind_some,
    Node.ofPieces?_map_piece fun name => whole?_of_mem_parts, sheet.renderAll?_parts]
  split <;> rfl

/-- A sheet is rendered just if every key in it has a value, and then each reference gives way to
the value of its key. Otherwise the failure begins with the source. -/
theorem renderAt_text (sheet : Sheet) (source : String) (data : Data) :
    ((∃ text, Directory.renderAt source (String.ofList sheet.text) data.values = .ok text) ↔
        ∀ key ∈ sheet.keys, key ∈ data.map (·.1)) ∧
      (∀ text, Directory.renderAt source (String.ofList sheet.text) data.values = .ok text →
        text.toList = sheet.filled data) ∧
      ∀ e, Directory.renderAt source (String.ofList sheet.text) data.values = .error e →
        ∃ detail, e = .manifest detail ∧ ∃ rest, detail.toList = source.toList ++ rest := by
  simp only [← data.isSome_lookup_iff]
  rw [Directory.renderAt, sheet.render?_text]
  by_cases hkeys : ∀ key ∈ sheet.keys, (data.lookup key).isSome
  · rw [if_pos hkeys]
    refine ⟨⟨fun _ => hkeys, fun _ => ⟨_, rfl⟩⟩, ?_, ?_⟩
    · rintro text ⟨⟩
      exact String.toList_ofList
    · rintro e ⟨⟩
  · rw [if_neg hkeys]
    refine ⟨⟨?_, fun h => absurd h hkeys⟩, ?_, ?_⟩
    · rintro ⟨text, ⟨⟩⟩
    · rintro text ⟨⟩
    · rintro e ⟨⟩
      exact ⟨_, rfl, Failure.exists_located source⟩

end Sheet

end Template

end NetworkRollout
