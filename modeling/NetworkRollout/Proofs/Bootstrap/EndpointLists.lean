import Mathlib.Data.List.Basic
import NetworkRollout.Bootstrap.Snapshot
import NetworkRollout.Proofs.Text.Pieces

/-!
# Lists of endpoints read back

The endpoints of databases and the IPFIX collectors are handed on as texts between commas. Both
lists can be read back: no item is lost, merged with another one or split, as long as the items have
no comma themselves.

* `Text.listed`, `Text.listed_intercalate`: a list between commas, read back.
* `Snapshot.written`, `Snapshot.address?`: an endpoint as it is written, and the address in it.
* `Snapshot.ipfixCollectors_eq`: the collectors, from whatever source, are one list.
* `Snapshot.endpointLists`: what is read back of both lists.
-/

namespace NetworkRollout

/-! ## Texts between commas -/

namespace Text

/-- The items of a list between commas. The empty text lists none. -/
def listed (text : String) : List String :=
  if text = "" then [] else (text.toList.splitOn ',').map String.ofList

theorem listed_of_ne {text : String} (h : text ≠ "") :
    listed text = (text.toList.splitOn ',').map String.ofList := if_neg h

/-- A list between commas is empty if it has no items, or only an empty one. -/
theorem intercalate_eq_empty_iff {items : List String} :
    ",".intercalate items = "" ↔ items = [] ∨ items = [""] := by
  constructor
  · intro h
    cases items with
    | nil => exact Or.inl rfl
    | cons item rest =>
      cases rest with
      | nil =>
        rw [String.intercalate_singleton] at h
        exact Or.inr (h ▸ rfl)
      | cons next rest =>
        rw [String.intercalate_cons_cons, ← String.toList_eq_nil_iff] at h
        simp at h
  · rintro (rfl | rfl) <;> rfl

/-- Items without commas are read back. A single empty item cannot be told from none. -/
theorem listed_intercalate {items : List String} (hcomma : ∀ item ∈ items, ',' ∉ item.toList)
    (hne : items ≠ [""]) : listed (",".intercalate items) = items := by
  by_cases hnil : items = []
  · rw [hnil]
    rfl
  · have htext : ",".intercalate items ≠ "" := fun h =>
      (intercalate_eq_empty_iff.mp h).elim hnil hne
    have hpieces : ([','].intercalate (items.map String.toList)).splitOn ',' =
        items.map String.toList := by
      refine List.splitOn_intercalate ',' (fun piece hpiece => ?_) (by simpa using hnil)
      obtain ⟨item, hitem, rfl⟩ := List.mem_map.mp hpiece
      exact hcomma item hitem
    rw [listed_of_ne htext, String.toList_intercalate]
    change (([','].intercalate _).splitOn ',').map _ = _
    rw [hpieces, List.map_map]
    exact (List.map_congr_left fun item _ => String.ofList_toList).trans (List.map_id items)

end Text

namespace Snapshot

/-! ## Endpoints of databases -/

/-- An address without the characters that structure a list of endpoints. -/
structure PlainAddress (address : String) : Prop where
  comma : ',' ∉ address.toList
  opening : '[' ∉ address.toList
  closing : ']' ∉ address.toList

instance (address : String) : Decidable (PlainAddress address) :=
  decidable_of_iff (',' ∉ address.toList ∧ '[' ∉ address.toList ∧ ']' ∉ address.toList)
    ⟨fun h => ⟨h.1, h.2.1, h.2.2⟩, fun h => ⟨h.comma, h.opening, h.closing⟩⟩

/-- A host as it stands in an endpoint. -/
def bracketed (host : List Char) : List Char := if ':' ∈ host then '[' :: host ++ [']'] else host

/-- A host without the brackets around it. -/
def unbracketed : List Char → List Char
  | '[' :: rest => rest.dropLast
  | host => host

/-- The text in front of the last colon, if the port stands behind it. -/
def host? (port : Nat) (s : List Char) : Option (List Char) :=
  let (behind, front) := Text.cutAt ':' s.reverse
  if behind.reverse = (toString port).toList then front.map List.reverse else none

/-- The address in an endpoint: without `ssl:`, the last colon with the port, and brackets. -/
def address? (port : Nat) (endpoint : String) : Option String :=
  match endpoint.toList with
  | 's' :: 's' :: 'l' :: ':' :: rest =>
    (host? port rest).map fun host => String.ofList (unbracketed host)
  | _ => none

/-- An endpoint as it is written. -/
def written (port : Nat) (address : String) : List Char :=
  "ssl:".toList ++ (bracketed address.toList ++ ':' :: (toString port).toList)

theorem unbracketed_of_not_mem {host : List Char} (h : '[' ∉ host) : unbracketed host = host := by
  unfold unbracketed
  split
  case h_1 => exact absurd List.mem_cons_self h
  case h_2 => rfl

theorem unbracketed_bracketed {host : List Char} (h : '[' ∉ host) :
    unbracketed (bracketed host) = host := by
  unfold bracketed
  split
  case isTrue => exact List.dropLast_concat
  case isFalse => exact unbracketed_of_not_mem h

theorem mem_bracketed {host : List Char} {c : Char} :
    c ∈ bracketed host ↔ c ∈ host ∨ ':' ∈ host ∧ (c = '[' ∨ c = ']') := by
  unfold bracketed
  split
  case isTrue hcolon =>
    simp [hcolon]
    tauto
  case isFalse hcolon => simp [hcolon]

theorem isDigit_of_mem_port {port : Nat} {c : Char} (h : c ∈ (toString port).toList) :
    c.isDigit = true := by
  change c ∈ port.repr.toList at h
  rw [Nat.toList_repr] at h
  exact Nat.isDigit_of_mem_toDigits (by decide) (by decide) h

theorem toList_endpoint (port : Nat) (address : String) :
    (endpoint port address).toList = written port address := by
  have hhost : hostPort address port =
      if ':' ∈ address.toList then "[" ++ address ++ "]:" ++ toString port
      else "" ++ address ++ ":" ++ toString port := rfl
  unfold endpoint written bracketed
  rw [hhost, String.toList_append]
  split_ifs <;> simp [String.toList_append]

/-- Apart from its host, an endpoint has letters, colons and digits only. -/
theorem mem_endpoint_iff {port : Nat} {address : String} {c : Char} (hc : c ∈ [',', '[', ']']) :
    c ∈ (endpoint port address).toList ↔ c ∈ bracketed address.toList := by
  have hrest : c ∉ "ssl:".toList ∧ c ≠ ':' ∧ c.isDigit = false := by
    simp only [List.mem_cons, List.not_mem_nil, or_false] at hc
    rcases hc with rfl | rfl | rfl <;> decide
  have hport : c ∉ (toString port).toList := by
    intro hmem
    rw [isDigit_of_mem_port hmem] at hrest
    exact Bool.noConfusion hrest.2.2
  rw [toList_endpoint, written, List.mem_append, List.mem_append, List.mem_cons]
  simp only [hrest.1, hrest.2.1, hport, false_or, or_false]

theorem host?_append (port : Nat) (host : List Char) :
    host? port (host ++ ':' :: (toString port).toList) = some host := by
  have hport : ':' ∉ (toString port).toList.reverse := by
    intro hmem
    exact absurd (isDigit_of_mem_port (List.mem_reverse.mp hmem)) (by decide)
  unfold host?
  rw [List.reverse_append, List.reverse_cons, List.append_assoc, List.singleton_append,
    Text.cutAt_append hport]
  dsimp only
  rw [if_pos (List.reverse_reverse _), Option.map_some, List.reverse_reverse]

/-- The address of a member is read back from its endpoint. -/
theorem address?_endpoint (port : Nat) {address : String} (h : PlainAddress address) :
    address? port (endpoint port address) = some address := by
  unfold address?
  rw [toList_endpoint]
  change (host? port (bracketed _ ++ ':' :: _)).map _ = _
  rw [host?_append, Option.map_some, unbracketed_bracketed h.opening, String.ofList_toList]

/-- What is read back of the list of databases. -/
structure DatabasesReadBack (s : Snapshot) (port : Nat) : Prop where
  /-- The list has one endpoint for each member, in order. -/
  endpoints : (Text.listed (s.databaseList port)).map String.toList =
    s.addresses.map (written port)
  addresses : (Text.listed (s.databaseList port)).mapM (address? port) = some s.addresses
  /-- Brackets stand exactly around the addresses that have colons. -/
  brackets : ∀ address ∈ s.addresses, ∀ bracket ∈ ['[', ']'],
    bracket ∈ written port address ↔ ':' ∈ address.toList
  /-- No other addresses have the same list. -/
  injective : ∀ other : Snapshot, (∀ address ∈ other.addresses, PlainAddress address) →
    other.databaseList port = s.databaseList port → other.addresses = s.addresses

section Databases

variable {s : Snapshot}

theorem listed_databaseList (h : ∀ address ∈ s.addresses, PlainAddress address) (port : Nat) :
    Text.listed (s.databaseList port) = s.addresses.map (endpoint port) := by
  refine Text.listed_intercalate ?_ ?_
  · intro item hitem
    obtain ⟨address, haddress, rfl⟩ := List.mem_map.mp hitem
    rw [mem_endpoint_iff (by decide), mem_bracketed]
    have hcomma := (h address haddress).comma
    simp [hcomma]
  · -- no endpoint is empty
    intro hempty
    obtain ⟨address, -, haddress⟩ := List.mem_map.mp (hempty ▸ List.mem_singleton_self "")
    rw [← String.toList_eq_nil_iff, toList_endpoint, written] at haddress
    cases haddress

theorem mapM_address?_endpoints (port : Nat) {addresses : List String}
    (h : ∀ address ∈ addresses, PlainAddress address) :
    (addresses.map (endpoint port)).mapM (address? port) = some addresses := by
  induction addresses with
  | nil => rfl
  | cons address rest ih =>
    obtain ⟨hfirst, hrest⟩ := List.forall_mem_cons.mp h
    rw [List.map_cons, List.mapM_cons, address?_endpoint port hfirst, ih hrest]
    rfl

theorem databasesReadBack (h : ∀ address ∈ s.addresses, PlainAddress address) (port : Nat) :
    s.DatabasesReadBack port where
  endpoints := by
    rw [listed_databaseList h port, List.map_map]
    exact List.map_congr_left fun address _ => toList_endpoint port address
  addresses := by
    rw [listed_databaseList h port]
    exact mapM_address?_endpoints port h
  brackets := by
    intro address haddress bracket hbracket
    have hplain := h address haddress
    rw [← toList_endpoint, mem_endpoint_iff (List.mem_cons_of_mem _ hbracket), mem_bracketed]
    simp only [List.mem_cons, List.not_mem_nil, or_false] at hbracket
    rcases hbracket with rfl | rfl
    · simp [hplain.opening]
    · simp [hplain.closing]
  injective := by
    intro other hother hsame
    have hread := mapM_address?_endpoints port hother
    rw [← listed_databaseList hother port, hsame, listed_databaseList h port,
      mapM_address?_endpoints port h] at hread
    exact (Option.some.inj hread).symm

end Databases

/-! ## Collectors -/

/-- The collectors of the spec, followed by the one of the flow settings if there are any. -/
def collectors (s : Snapshot) (spec : NetworkSpec) : List String :=
  spec.ipfixEndpoints ++ s.flow.toList.map (·.target)

/-- What is read back of the collectors. -/
structure CollectorsReadBack (s : Snapshot) (spec : NetworkSpec) : Prop where
  collectors : ∀ text, s.ipfixCollectors spec = some text →
    (text.toList.splitOn ',').map String.ofList = s.collectors spec
  none_iff : s.ipfixCollectors spec = none ↔ spec.ipfixEndpoints = [] ∧ s.flow = none

section Collectors

variable {s : Snapshot} {spec : NetworkSpec}

theorem intercalate_concat {items : List String} (h : items ≠ []) (last : String) :
    ",".intercalate (items ++ [last]) = ",".intercalate items ++ "," ++ last := by
  induction items with
  | nil => exact absurd rfl h
  | cons item rest ih =>
    cases rest with
    | nil =>
      rw [List.singleton_append, String.intercalate_cons_cons, String.intercalate_singleton,
        String.intercalate_singleton]
    | cons next rest =>
      rw [List.cons_append, List.cons_append, String.intercalate_cons_cons,
        String.intercalate_cons_cons, ← List.cons_append, ih (List.cons_ne_nil _ _)]
      simp only [String.append_assoc]

theorem collectors_of_none (h : s.flow = none) : s.collectors spec = spec.ipfixEndpoints := by
  unfold collectors
  rw [h]
  exact List.append_nil _

theorem collectors_of_some {flow : FlowSettings} (h : s.flow = some flow) :
    s.collectors spec = spec.ipfixEndpoints ++ [flow.target] := by
  unfold collectors
  rw [h]
  rfl

/-- The collectors of both sources are written as one list; nothing is written if there are none. -/
theorem ipfixCollectors_eq (h : ∀ collector ∈ spec.ipfixEndpoints, collector ≠ "")
    (hflow : ∀ flow ∈ s.flow, flow.target ≠ "") :
    s.ipfixCollectors spec =
      if s.collectors spec = [] then none else some (",".intercalate (s.collectors spec)) := by
  have hdeclared : spec.ipfixCollectors = "" ↔ spec.ipfixEndpoints = [] := by
    refine Text.intercalate_eq_empty_iff.trans (or_iff_left ?_)
    intro hempty
    exact h "" (hempty ▸ List.mem_singleton_self "") rfl
  unfold ipfixCollectors
  cases hs : s.flow with
  | none =>
    rw [collectors_of_none hs]
    exact if_congr hdeclared rfl rfl
  | some flow =>
    have htarget : flow.target ≠ "" := hflow flow hs
    rw [collectors_of_some hs, if_neg (List.append_ne_nil_of_right_ne_nil _ (List.cons_ne_nil _ _))]
    unfold FlowSettings.mergeCollectors
    dsimp only
    by_cases hnil : spec.ipfixEndpoints = []
    · rw [if_pos (hdeclared.mpr hnil), if_neg htarget, hnil, List.nil_append,
        String.intercalate_singleton]
    · have hne : spec.ipfixCollectors ++ "," ++ flow.target ≠ "" := by
        rw [ne_eq, ← String.toList_eq_nil_iff]
        simp
      rw [if_neg fun hempty => hnil (hdeclared.mp hempty), if_neg hne,
        intercalate_concat hnil flow.target]
      rfl

theorem collectorsReadBack
    (h : ∀ collector ∈ spec.ipfixEndpoints, collector ≠ "" ∧ ',' ∉ collector.toList)
    (hflow : ∀ flow ∈ s.flow, flow.target ≠ "" ∧ ',' ∉ flow.target.toList) :
    s.CollectorsReadBack spec := by
  have heq := ipfixCollectors_eq (fun c hc => (h c hc).1) fun flow hf => (hflow flow hf).1
  have hitems : ∀ item ∈ s.collectors spec, item ≠ "" ∧ ',' ∉ item.toList := by
    intro item hitem
    rcases List.mem_append.mp hitem with hdeclared | htarget
    · exact h item hdeclared
    · obtain ⟨flow, hf, rfl⟩ := List.mem_map.mp htarget
      exact hflow flow (Option.mem_toList.mp hf)
  have hsingle : s.collectors spec ≠ [""] := fun hempty =>
    (hitems "" (hempty ▸ List.mem_singleton_self "")).1 rfl
  refine ⟨?_, ?_⟩
  · intro text htext
    rw [heq] at htext
    split_ifs at htext with hnil
    cases htext
    have htext : ",".intercalate (s.collectors spec) ≠ "" := fun hempty =>
      (Text.intercalate_eq_empty_iff.mp hempty).elim hnil hsingle
    rw [← Text.listed_of_ne htext]
    exact Text.listed_intercalate (fun item hitem => (hitems item hitem).2) hsingle
  · have hnone : s.ipfixCollectors spec = none ↔ s.collectors spec = [] := by
      rw [heq]
      split_ifs with hnil <;> simp [hnil]
    rw [hnone]
    unfold collectors
    cases s.flow <;> simp

end Collectors

/-- Both lists are read back: that of the databases when the addresses are plain, and that of the
collectors when no collector is empty or has a comma. -/
theorem endpointLists (s : Snapshot) (spec : NetworkSpec) (port : Nat) :
    ((∀ address ∈ s.addresses, PlainAddress address) → s.DatabasesReadBack port) ∧
      ((∀ collector ∈ spec.ipfixEndpoints, collector ≠ "" ∧ ',' ∉ collector.toList) →
        (∀ flow ∈ s.flow, flow.target ≠ "" ∧ ',' ∉ flow.target.toList) →
          s.CollectorsReadBack spec) :=
  ⟨fun h => databasesReadBack h port, collectorsReadBack⟩

/-- Addresses of both families, one of them empty, and collectors of both sources. -/
theorem endpointLists_mixed :
    let s : Snapshot :=
      { addresses := ["10.0.0.1", "", "fd00::1"], flow := some { target := ":2055" } }
    let spec : NetworkSpec :=
      { flowExport := some { ipfix := some { endpoints := ["10.0.0.7:4739", "[fd00::7]:4739"] } } }
    s.databaseList 9641 = "ssl:10.0.0.1:9641,ssl::9641,ssl:[fd00::1]:9641" ∧
      s.DatabasesReadBack 9641 ∧ s.CollectorsReadBack spec := by
  intro s spec
  obtain ⟨hdatabases, hcollectors⟩ := endpointLists s spec 9641
  exact ⟨by decide +kernel, hdatabases (by decide), hcollectors (by decide) (by decide)⟩

end Snapshot

end NetworkRollout
