import Mathlib.Tactic.SplitIfs
import NetworkRollout.Membership.InstallConfig
import NetworkRollout.Proofs.Readings
import NetworkRollout.Proofs.Yaml.Comparison

/-!
# The replica count that a document promises

What is documented of the replica count is a count for every value: a number, or a text that writes
one, counts as it says, and whatever is no number counts as zero. The count is read so from a
document whose keys are all scalars, unless the value is a truth value, a collection or a quoted
null; then the reading fails.

* `Denotes`, `IsCollection`: the values of nodes.
* `Gives`, `Promised`: what stands under the key, and the count that it promises.
* `Readable`: when the promise is kept.
* `readCount?_promised`, `optional?_mapping`: the steps of the reading.
* `replicas?_promised`: the count of a document, or the failure.
-/

namespace NetworkRollout.InstallConfig

open Yaml

/-! ## What documents say -/

/-- A node is a scalar that denotes the value, and has no tag of the document's own. -/
def Denotes (d : Document) (node : Node) (value : ScalarValue) : Prop :=
  ∃ tag plain text, target? d node = some (.scalar tag plain text) ∧ localTag? tag = none ∧
    ScalarValue.of? tag plain text = some value

def IsPlain (d : Document) (node : Node) : Prop :=
  ∃ tag text, target? d node = some (.scalar tag true text)

def IsCollection (d : Document) (node : Node) : Prop :=
  (∃ tag items, target? d node = some (.sequence tag items)) ∨
    ∃ tag entries, target? d node = some (.mapping tag entries)

/-- The values of a key in a mapping. -/
def valuesUnder (d : Document) (name : String) (entries : List (Node × Node)) : List Node :=
  (entries.filter fun entry => keyText? d entry.1 = some name).map (·.2)

/-- All keys of a mapping are scalars. -/
def KeysRead (d : Document) (entries : List (Node × Node)) : Prop :=
  ∀ entry ∈ entries, (keyText? d entry.1).isSome

/-- A document whose root has the given entries gives a value as its replica count. The key of the
pool is absent, null or a mapping, which has the key of the count at most once. -/
inductive Gives (d : Document) (entries : List (Node × Node)) :
    List (Node × Node) → Option Node → Prop
  | noPool (h : valuesUnder d "controlPlane" entries = []) : Gives d entries [] none
  | nullPool {pool : Node} (h : valuesUnder d "controlPlane" entries = [pool])
    (hnull : Denotes d pool .null) : Gives d entries [] none
  | pool {pool : Node} {tag : Option String} {members : List (Node × Node)} {value : Option Node}
    (h : valuesUnder d "controlPlane" entries = [pool])
    (hpool : target? d pool = some (.mapping tag members))
    (hvalue : valuesUnder d "replicas" members = value.toList) : Gives d entries members value

/-- A decimal number of at most 64 bits, in digits of ASCII with one plus sign allowed in front. -/
def IsDecimal (s : List Char) (n : Nat) : Prop :=
  ∃ digits : List Char, (s = digits ∨ s = '+' :: digits) ∧ digits ≠ [] ∧
    (∀ c ∈ digits, c.isDigit = true) ∧ Nat.ofDigitChars 10 digits 0 = n ∧ n < UInt64.size

/-- The count that a value promises. Numbers that are no counts promise nothing. -/
inductive Promised (d : Document) : Option Node → Nat → Prop
  | absent : Promised d none 0
  | null {node : Node} (h : Denotes d node .null) : Promised d (some node) 0
  | number {node : Node} {n : Nat} (h : Denotes d node (.int n)) : Promised d (some node) n
  | decimal {node : Node} {s : String} {n : Nat} (h : Denotes d node (.text s))
    (hs : IsDecimal (Text.trim s.toList) n) : Promised d (some node) n
  | otherText {node : Node} {s : String} (h : Denotes d node (.text s))
    (hs : ∀ n, ¬ IsDecimal (Text.trim s.toList) n) : Promised d (some node) 0
  | truth {node : Node} {b : Bool} (h : Denotes d node (.bool b)) : Promised d (some node) 0
  | collection {node : Node} (h : IsCollection d node) : Promised d (some node) 0

/-- A null is written plainly. -/
def PlainIfNull (d : Document) (node : Node) : Prop := Denotes d node .null → IsPlain d node

/-- A value that keeps its promise. -/
structure KeepsPromise (d : Document) (node : Node) : Prop where
  null : PlainIfNull d node
  truth : ∀ b, ¬ Denotes d node (.bool b)
  collection : ¬ IsCollection d node

/-- All keys of both mappings are scalars, and the values keep their promises. -/
structure Readable (d : Document) (entries members : List (Node × Node)) (value : Option Node) :
    Prop where
  keys : KeysRead d entries
  poolKeys : KeysRead d members
  pool : ∀ pool ∈ valuesUnder d "controlPlane" entries, PlainIfNull d pool
  value : ∀ node ∈ value, KeepsPromise d node

/-- An answer is the given one under a condition, and there is none otherwise. -/
def AnswersIf (condition : Prop) (answer : Option Nat) (n : Nat) : Prop :=
  (condition → answer = some n) ∧ (¬ condition → answer = none)

variable {d : Document} {node : Node} {name : String} {entries : List (Node × Node)}

theorem AnswersIf.of_true {condition : Prop} {answer : Option Nat} {n : Nat} (h : condition)
    (hanswer : answer = some n) : AnswersIf condition answer n :=
  ⟨fun _ => hanswer, fun hnot => absurd h hnot⟩

theorem AnswersIf.of_false {condition : Prop} {answer : Option Nat} {n : Nat} (h : ¬ condition)
    (hanswer : answer = none) : AnswersIf condition answer n :=
  ⟨fun hyes => absurd hyes h, fun _ => hanswer⟩

/-! ## Values -/

theorem Denotes.unique {a b : ScalarValue} (ha : Denotes d node a) (hb : Denotes d node b) :
    a = b := by
  obtain ⟨tag, plain, text, htarget, -, hvalue⟩ := ha
  obtain ⟨tag', plain', text', htarget', -, hvalue'⟩ := hb
  rw [htarget] at htarget'
  cases htarget'
  exact Option.some.inj (hvalue.symm.trans hvalue')

theorem Denotes.not_isCollection {value : ScalarValue} (h : Denotes d node value) :
    ¬ IsCollection d node := by
  obtain ⟨tag, plain, text, htarget, -⟩ := h
  rintro (⟨tag', items, hitems⟩ | ⟨tag', entries, hentries⟩)
  · rw [htarget] at hitems
    cases hitems
  · rw [htarget] at hentries
    cases hentries

/-- A scalar that is neither null nor a truth value keeps its promise. -/
theorem Denotes.keepsPromise {value : ScalarValue} (h : Denotes d node value)
    (hnull : value ≠ .null) (htruth : ∀ b, value ≠ .bool b) : KeepsPromise d node where
  null h' := absurd (h.unique h') hnull
  truth b h' := htruth b (h.unique h')
  collection := h.not_isCollection

theorem u64?_eq_some_iff {s : List Char} {n : Nat} : Text.u64? s = some n ↔ IsDecimal s n := by
  unfold Text.u64? Text.unsigned?
  constructor
  · intro h
    dsimp only at h
    split_ifs at h with hdigits hlt
    cases h
    refine ⟨Text.dropPlus s, ?_, hdigits.1, List.all_eq_true.mp hdigits.2, rfl, hlt⟩
    unfold Text.dropPlus
    split
    case h_1 => exact Or.inr rfl
    case h_2 => exact Or.inl rfl
  · rintro ⟨digits, hs, hne, hall, rfl, hlt⟩
    have hdrop : Text.dropPlus s = digits := by
      rcases hs with rfl | rfl
      · exact Text.dropPlus_of_isDigit hall
      · rfl
    rw [hdrop]
    dsimp only
    rw [if_pos ⟨hne, List.all_eq_true.mpr hall⟩, if_pos hlt]

/-- Only numbers and texts have a count. -/
def countOfValue? : ScalarValue → Option Nat
  | .int n => if 0 ≤ n then some n.toNat else none
  | .text s => some (countOfText s)
  | _ => none

theorem count?_scalar {tag : Option String} {plain : Bool} {text : String}
    (h : localTag? tag = none) :
    count? (.scalar tag plain text) = (ScalarValue.of? tag plain text).bind countOfValue? := by
  unfold count?
  dsimp only
  rw [h, if_neg (by decide)]
  rcases ScalarValue.of? tag plain text with _ | _ | _ | _ | _ | _ | _ <;> rfl

theorem whole?_ne_null {s : List Char} : ScalarValue.whole? s ≠ some .null := by
  unfold ScalarValue.whole?
  split
  · split_ifs <;> simp
  · split_ifs <;> simp
  · simp

theorem ofPlain_eq_null_iff {text : String} :
    ScalarValue.ofPlain text = .null ↔ (text = "" || ScalarValue.isNullWord text) = true := by
  unfold ScalarValue.ofPlain
  by_cases hnull : (text = "" || ScalarValue.isNullWord text) = true
  · rw [if_pos hnull]
    exact iff_of_true rfl hnull
  · rw [if_neg hnull]
    refine iff_of_false ?_ hnull
    split
    case h_1 => nofun
    case h_2 =>
      split
      case h_1 v hwhole =>
        rintro rfl
        exact whole?_ne_null hwhole
      case h_2 =>
        split_ifs
        case pos => nofun
        case neg => cases ScalarValue.double? text.toList <;> nofun

/-- A tag that is not the document's own makes a null only if it is the standard one, and then of a
word for it. -/
theorem of?_tagged_eq_null {t text : String} {plain : Bool} (hlocal : localTag? (some t) = none)
    (h : ScalarValue.of? (some t) plain text = some .null) :
    t = ScalarValue.standardTag "null" ∧ ScalarValue.isNullWord text = true := by
  have hmark : t.toList.head? ≠ some '!' := by
    intro hhead
    obtain ⟨rest, hrest⟩ := List.head?_eq_some_iff.mp hhead
    unfold localTag? at hlocal
    dsimp only at hlocal
    rw [hrest] at hlocal
    cases rest <;> cases hlocal
  unfold ScalarValue.of? at h
  dsimp only at h
  split_ifs at h with hbool hint hfloat hnull hword hown
  · obtain ⟨b, -, hb⟩ := Option.map_eq_some_iff.mp h
    cases hb
  · exact absurd h whole?_ne_null
  · obtain ⟨x, -, hx⟩ := Option.map_eq_some_iff.mp h
    cases hx
  · exact ⟨hnull, hword⟩
  · simp [hmark] at hown
  · cases h

theorem of?_nullTag (plain : Bool) (text : String) :
    ScalarValue.of? (some (ScalarValue.standardTag "null")) plain text =
      if ScalarValue.isNullWord text then some .null else none := by
  unfold ScalarValue.of?
  dsimp only
  rw [if_neg (by decide), if_neg (by decide), if_neg (by decide), if_pos rfl]

/-- The count of a value, if it is not null, as it is read from a mapping. -/
def readCount? (d : Document) (node : Node) : Option Nat := do
  match ← unlessNull? d node with
  | none => return 0
  | some value => count? value

theorem unlessNull?_mapping {tag : Option String}
    (h : target? d node = some (.mapping tag entries)) :
    unlessNull? d node = some (some (.mapping tag entries)) := by
  unfold unlessNull?
  rw [h]

theorem unlessNull?_quoted {tag : Option String} {text : String}
    (h : target? d node = some (.scalar tag false text)) :
    unlessNull? d node = some (some (.scalar tag false text)) := by
  unfold unlessNull?
  rw [h]

theorem readCount?_of_isCollection (h : IsCollection d node) : readCount? d node = none := by
  unfold readCount? unlessNull?
  rcases h with ⟨tag, items, htarget⟩ | ⟨tag, entries, htarget⟩ <;>
  · rw [htarget]
    rfl

/-- A plain null reads as if there were no value. -/
theorem Denotes.unlessNull?_of_plain (h : Denotes d node .null) (hplain : IsPlain d node) :
    unlessNull? d node = some none := by
  obtain ⟨tag, plain, text, htarget, hlocal, hvalue⟩ := h
  obtain ⟨tag', text', htarget'⟩ := hplain
  rw [htarget] at htarget'
  cases htarget'
  unfold unlessNull?
  rw [htarget]
  cases tag with
  | none =>
    have hnull := ofPlain_eq_null_iff.mp (Option.some.inj hvalue)
    exact if_pos hnull
  | some t =>
    obtain ⟨rfl, hword⟩ := of?_tagged_eq_null hlocal hvalue
    dsimp only
    rw [if_pos rfl, if_pos hword]

/-- A scalar that is not a plain null stays as it is. -/
theorem Denotes.unlessNull?_of_not_plain {value : ScalarValue} (h : Denotes d node value)
    (hplain : value = .null → ¬ IsPlain d node) :
    ∃ tag plain text, unlessNull? d node = some (some (.scalar tag plain text)) ∧
      localTag? tag = none ∧ ScalarValue.of? tag plain text = some value := by
  obtain ⟨tag, plain, text, htarget, hlocal, hvalue⟩ := h
  refine ⟨tag, plain, text, ?_, hlocal, hvalue⟩
  unfold unlessNull?
  rw [htarget]
  cases plain with
  | false => rfl
  | true =>
    have hne : value ≠ .null := fun hnull => hplain hnull ⟨tag, text, htarget⟩
    cases tag with
    | none =>
      refine if_neg fun hnull => hne ?_
      exact (Option.some.inj hvalue).symm.trans (ofPlain_eq_null_iff.mpr hnull)
    | some t =>
      refine if_neg fun ht => ?_
      rw [ht, of?_nullTag] at hvalue
      split_ifs at hvalue
      cases hvalue
      exact hne rfl

theorem Denotes.readCount?_eq {value : ScalarValue} (h : Denotes d node value)
    (hplain : value = .null → ¬ IsPlain d node) : readCount? d node = countOfValue? value := by
  obtain ⟨tag, plain, text, hnode, hlocal, hvalue⟩ := h.unlessNull?_of_not_plain hplain
  unfold readCount?
  rw [hnode, Option.bind_eq_bind, Option.bind_some]
  dsimp only
  rw [count?_scalar hlocal, hvalue, Option.bind_some]

/-- A value yields the count that it promises, or fails if it does not keep the promise. -/
theorem readCount?_promised {n : Nat} (h : Promised d (some node) n) :
    AnswersIf (KeepsPromise d node) (readCount? d node) n := by
  cases h with
  | null hnull =>
    by_cases hplain : IsPlain d node
    · refine .of_true ⟨fun _ => hplain, fun b hb => ?_, hnull.not_isCollection⟩ ?_
      · cases hnull.unique hb
      · unfold readCount?
        rw [hnull.unlessNull?_of_plain hplain]
        rfl
    · refine .of_false (fun hkeeps => hplain (hkeeps.null hnull)) ?_
      exact hnull.readCount?_eq fun _ => hplain
  | number hnumber =>
    refine .of_true (hnumber.keepsPromise nofun nofun) ?_
    rw [hnumber.readCount?_eq nofun]
    unfold countOfValue?
    dsimp only
    rw [if_pos (Int.natCast_nonneg n), Int.toNat_natCast]
  | decimal htext hs =>
    refine .of_true (htext.keepsPromise nofun nofun) ?_
    rw [htext.readCount?_eq nofun]
    unfold countOfValue? countOfText
    dsimp only
    rw [u64?_eq_some_iff.mpr hs, Option.getD_some]
  | @otherText _ s htext hs =>
    have hnone : Text.u64? (Text.trim s.toList) = none :=
      Option.eq_none_iff_forall_ne_some.mpr fun n hn => hs n (u64?_eq_some_iff.mp hn)
    refine .of_true (htext.keepsPromise nofun nofun) ?_
    rw [htext.readCount?_eq nofun]
    unfold countOfValue? countOfText
    dsimp only
    rw [hnone, Option.getD_none]
  | truth htruth =>
    refine .of_false (fun hkeeps => hkeeps.truth _ htruth) ?_
    exact htruth.readCount?_eq nofun
  | collection hcollection =>
    exact .of_false (fun hkeeps => hkeeps.collection hcollection)
      (readCount?_of_isCollection hcollection)

/-! ## Keys -/

/-- The entries of a mapping under the texts of their keys, those that have one. -/
def named (d : Document) (entries : List (Node × Node)) : List (String × Node) :=
  entries.filterMap fun (k, v) => (keyText? d k).map fun name => (name, v)

theorem valuesUnder_eq : valuesUnder d name entries =
    ((named d entries).filter (·.1 = name)).map (·.2) := by
  unfold valuesUnder named
  induction entries with
  | nil => rfl
  | cons entry rest ih =>
    obtain ⟨k, v⟩ := entry
    rw [List.filter_cons, List.filterMap_cons]
    cases hk : keyText? d k with
    | none => simpa [hk] using ih
    | some text => by_cases htext : text = name <;> simp [hk, htext, ih]

theorem single?_named : single? name (named d entries) =
    match valuesUnder d name entries with
    | [] => some none
    | [value] => some (some value)
    | _ => none := by
  rw [valuesUnder_eq]
  unfold single?
  generalize (named d entries).filter (·.1 = name) = found
  rcases found with _ | ⟨first, _ | ⟨second, rest⟩⟩ <;> rfl

theorem mapM_keys (h : KeysRead d entries) :
    (entries.mapM fun (k, v) => (keyText? d k).map fun name => (name, v)) =
      some (named d entries) := by
  unfold KeysRead at h
  unfold named
  induction entries with
  | nil => rfl
  | cons entry rest ih =>
    obtain ⟨k, v⟩ := entry
    obtain ⟨hfirst, hrest⟩ := List.forall_mem_cons.mp h
    obtain ⟨text, htext⟩ := Option.isSome_iff_exists.mp hfirst
    dsimp only at htext
    rw [List.mapM_cons, ih hrest, List.filterMap_cons]
    dsimp only
    rw [htext]
    rfl

theorem mapM_keys_eq_none (h : ¬ KeysRead d entries) :
    (entries.mapM fun (k, v) => (keyText? d k).map fun name => (name, v)) = none := by
  rw [← Option.not_isSome_iff_eq_none, isSome_mapM_iff]
  intro hread
  exact h fun entry hentry => Option.isSome_map ▸ hread entry hentry

/-- A key of a mapping whose keys are all scalars is looked up among them. -/
theorem optional?_mapping {tag : Option String} (h : target? d node = some (.mapping tag entries))
    (hkeys : KeysRead d entries) (name : String) :
    optional? d name node =
      match valuesUnder d name entries with
      | [] => some none
      | [value] => unlessNull? d value
      | _ => none := by
  unfold optional? entries?
  rw [h]
  dsimp only
  rw [mapM_keys hkeys, Option.bind_eq_bind, Option.bind_some, single?_named]
  rcases valuesUnder d name entries with _ | ⟨first, _ | ⟨second, rest⟩⟩ <;> rfl

theorem optional?_of_not_keysRead {tag : Option String}
    (h : target? d node = some (.mapping tag entries)) (hkeys : ¬ KeysRead d entries)
    (name : String) : optional? d name node = none := by
  unfold optional? entries?
  rw [h]
  dsimp only
  rw [mapM_keys_eq_none hkeys]
  rfl

/-! ## Documents -/

/-- What stands between quotes has no entries. -/
theorem optional?_quoted (tag : Option String) (text name : String) :
    optional? d name (.scalar tag false text) = none := rfl

theorem replicasOf?_of_root {tag : Option String} (h : d.root = some (.mapping tag entries))
    (hkeys : KeysRead d entries) :
    replicasOf? d =
      match valuesUnder d "controlPlane" entries with
      | [] => some 0
      | [pool] => do
        match ← unlessNull? d pool with
        | none => return 0
        | some pool =>
          match ← optional? d "replicas" pool with
          | none => return 0
          | some value => count? value
      | _ => none := by
  unfold replicasOf?
  rw [h]
  dsimp only
  rw [optional?_mapping rfl hkeys]
  rcases valuesUnder d "controlPlane" entries with _ | ⟨first, _ | ⟨second, rest⟩⟩ <;> rfl

theorem replicasOf?_of_not_keysRead {tag : Option String}
    (h : d.root = some (.mapping tag entries)) (hkeys : ¬ KeysRead d entries) :
    replicasOf? d = none := by
  unfold replicasOf?
  rw [h]
  dsimp only
  rw [optional?_of_not_keysRead rfl hkeys]
  rfl

/-- The count of a document in steps: no pool, a null one, and one that is a mapping. -/
theorem replicasOf?_promised {tag : Option String} {members : List (Node × Node)}
    {value : Option Node} {n : Nat} (hroot : d.root = some (.mapping tag entries))
    (hgives : Gives d entries members value) (hpromised : Promised d value n) :
    AnswersIf (Readable d entries members value) (replicasOf? d) n := by
  by_cases hkeys : KeysRead d entries
  case neg =>
    exact .of_false (fun hread => hkeys hread.keys) (replicasOf?_of_not_keysRead hroot hkeys)
  rw [replicasOf?_of_root hroot hkeys]
  have hnone : KeysRead d [] := nofun
  cases hgives with
  | noPool hpool =>
    cases hpromised
    rw [hpool]
    refine .of_true ⟨hkeys, hnone, ?_, nofun⟩ rfl
    rw [hpool]
    exact nofun
  | @nullPool pool hpool hnull =>
    cases hpromised
    rw [hpool]
    dsimp only
    by_cases hplain : IsPlain d pool
    · refine .of_true ⟨hkeys, hnone, ?_, nofun⟩ ?_
      · rw [hpool]
        exact List.forall_mem_singleton.mpr fun _ => hplain
      · rw [hnull.unlessNull?_of_plain hplain]
        rfl
    · refine .of_false (fun hread => ?_) ?_
      · exact hplain (hread.pool pool (hpool ▸ List.mem_singleton_self pool) hnull)
      · obtain ⟨tag', plain, text, htarget, -⟩ := hnull
        cases plain with
        | true => exact absurd ⟨tag', text, htarget⟩ hplain
        | false =>
          rw [unlessNull?_quoted htarget, Option.bind_eq_bind, Option.bind_some]
          dsimp only
          rw [optional?_quoted]
          rfl
  | @pool pool tag' _ _ hpool htarget hvalue =>
    have hnotNull : ¬ Denotes d pool .null := fun hnull =>
      hnull.not_isCollection (Or.inr ⟨tag', members, htarget⟩)
    have hplain : ∀ node ∈ valuesUnder d "controlPlane" entries, PlainIfNull d node := by
      rw [hpool]
      exact List.forall_mem_singleton.mpr fun hnull => absurd hnull hnotNull
    rw [hpool]
    dsimp only
    rw [unlessNull?_mapping htarget, Option.bind_eq_bind, Option.bind_some]
    dsimp only
    by_cases hmembers : KeysRead d members
    case neg =>
      refine .of_false (fun hread => hmembers hread.poolKeys) ?_
      rw [optional?_of_not_keysRead rfl hmembers]
      rfl
    rw [optional?_mapping rfl hmembers, hvalue]
    cases value with
    | none =>
      cases hpromised
      exact .of_true ⟨hkeys, hmembers, hplain, nofun⟩ rfl
    | some node =>
      obtain ⟨hkept, hbroken⟩ := readCount?_promised hpromised
      refine ⟨fun hread => hkept (hread.value node rfl), fun hread => hbroken fun hkeeps => ?_⟩
      refine hread ⟨hkeys, hmembers, hplain, ?_⟩
      rintro _ ⟨⟩
      exact hkeeps

/-- Of every document that gives a count in its place, the promised count is read if the document is
readable, and none otherwise. -/
theorem replicas?_promised {text : String} {tag : Option String} {members : List (Node × Node)}
    {value : Option Node} {n : Nat} (htext : documents? text.toList = some [d])
    (hroot : d.root = some (.mapping tag entries)) (hgives : Gives d entries members value)
    (hpromised : Promised d value n) :
    AnswersIf (Readable d entries members value) (replicas? text) n := by
  have hdocument : replicas? text = replicasOf? d := by
    unfold replicas?
    rw [htext]
    rfl
  rw [hdocument]
  exact replicasOf?_promised hroot hgives hpromised

/-- A text with blanks around its number, which the key names by an alias. -/
theorem replicas?_promised_alias :
    replicas? "x: &n \" +3 \"\ncontrolPlane: {replicas: *n}\n" = some 3 := by
  let members : List (Node × Node) := [(.scalar none true "replicas", .alias 0)]
  let entries : List (Node × Node) :=
    [(.scalar none true "x", .scalar none false " +3 "),
      (.scalar none true "controlPlane", .mapping none members)]
  let d : Document :=
    { root := some (.mapping none entries), anchored := #[(0, .scalar none false " +3 ")] }
  have htext : documents? "x: &n \" +3 \"\ncontrolPlane: {replicas: *n}\n".toList = some [d] := by
    decide +kernel
  have hdenotes : Denotes d (.alias 0) (.text " +3 ") := ⟨none, false, " +3 ", rfl, rfl, rfl⟩
  have hdecimal : IsDecimal (Text.trim " +3 ".toList) 3 :=
    ⟨['3'], Or.inr (by decide), by decide, List.forall_mem_singleton.mpr rfl, rfl, by decide⟩
  have hgives : Gives d entries members (some (.alias 0)) := .pool rfl rfl rfl
  refine (replicas?_promised htext rfl hgives (.decimal hdenotes hdecimal)).1 ⟨?_, ?_, ?_, ?_⟩
  · unfold KeysRead
    decide
  · unfold KeysRead
    decide
  · refine List.forall_mem_singleton.mpr fun hnull => ?_
    exact absurd (Or.inr ⟨_, _, rfl⟩) hnull.not_isCollection
  · rintro _ ⟨⟩
    exact hdenotes.keepsPromise nofun nofun

/-- A truth value does not count as zero. -/
theorem not_replicas?_always_promised :
    ¬ ∀ (text : String) (d : Document) (tag : Option String)
      (entries members : List (Node × Node)) (value : Option Node) (n : Nat),
      documents? text.toList = some [d] →
        d.root = some (.mapping tag entries) → Gives d entries members value →
          Promised d value n → replicas? text = some n := by
  intro h
  have htext : documents? "controlPlane:\n  replicas: true\n".toList =
      some [{ root := some (.mapping none [(.scalar none true "controlPlane",
        .mapping none [(.scalar none true "replicas", .scalar none true "true")])]) }] := by
    decide +kernel
  have hread : replicas? "controlPlane:\n  replicas: true\n" = none := by decide +kernel
  have hpromised := h _ _ _ _ _ _ 0 htext rfl (.pool rfl rfl (by rfl))
    (.truth ⟨_, _, _, rfl, rfl, rfl⟩)
  rw [hread] at hpromised
  cases hpromised

end NetworkRollout.InstallConfig
