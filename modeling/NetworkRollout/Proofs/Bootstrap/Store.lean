import NetworkRollout.Bootstrap.Scripted

/-!
# Stores of texts

A pass keeps its texts in a store. Whatever else the world is, a store is what stands under each
key and what was written so far. Reading changes neither, a write that fails has no effect, and a
write that succeeds changes one entry.

* `Surroundings.AsksKeep`: a relation of worlds that every question but a record keeps.
* `TextStore`, `Surroundings.StoresIn`: a view of the world as a store, and what surroundings do to
  it.
* `Script.storesIn`: surroundings from a script have such a store.
-/

namespace NetworkRollout

/-! ## Questions -/

/-- A relation of worlds that holds along any questions, as long as nothing is recorded. -/
structure Surroundings.AsksKeep {σ : Type} (env : Surroundings σ) (R : σ → σ → Prop) : Prop where
  refl : ∀ w, R w w
  trans : ∀ {a b c}, R a b → R b c → R a c
  infrastructure : ∀ w, R w (env.infrastructure w).2
  configMap : ∀ namespaceName name w, R w (env.configMap namespaceName name w).2
  workload : ∀ namespaceName name w, R w (env.workload namespaceName name w).2
  listNodes : ∀ w, R w (env.listNodes w).2
  recorded : ∀ key w, R w (env.recorded key w).2

/-! ## Stores -/

/-- A view of the world as a store: the text under each key, and what was written, in order. -/
structure TextStore (σ : Type) where
  entry : σ → String → Option String
  writes : σ → List (String × String)

namespace TextStore

variable {σ : Type} {store : TextStore σ} {a b c : σ}

/-- Two worlds with the same texts, nothing written between them. -/
structure Same (store : TextStore σ) (before after : σ) : Prop where
  entry : store.entry after = store.entry before
  writes : store.writes after = store.writes before

theorem Same.refl (w : σ) : store.Same w w := ⟨rfl, rfl⟩

theorem Same.trans (hab : store.Same a b) (hbc : store.Same b c) : store.Same a c :=
  ⟨hbc.entry.trans hab.entry, hbc.writes.trans hab.writes⟩

/-- One text is written, and nothing else changes. -/
structure Written (store : TextStore σ) (key value : String) (before after : σ) : Prop where
  entry : store.entry after key = some value
  others : ∀ other, other ≠ key → store.entry after other = store.entry before other
  writes : store.writes after = store.writes before ++ [(key, value)]

/-- Reading in front of a write, and after it, changes nothing about it. -/
theorem Written.of_same {d : σ} {key value : String} (hab : store.Same a b)
    (hbc : store.Written key value b c) (hcd : store.Same c d) : store.Written key value a d where
  entry := by
    rw [hcd.entry]
    exact hbc.entry
  others := by
    intro other hother
    rw [hcd.entry, hbc.others other hother, hab.entry]
  writes := by rw [hcd.writes, hbc.writes, hab.writes]

end TextStore

/-- Surroundings that keep their texts in a store: what is recalled stands there, a failed record
has no effect, and one that succeeds writes its text. -/
structure Surroundings.StoresIn {σ : Type} (env : Surroundings σ) (store : TextStore σ) : Prop where
  asks : env.AsksKeep store.Same
  recorded : ∀ {key w text}, (env.recorded key w).1 = .ok text → text = store.entry w key
  record_error : ∀ {key value w e}, (env.record key value w).1 = .error e →
    store.Same w (env.record key value w).2
  record_ok : ∀ {key value w}, (env.record key value w).1 = .ok () →
    store.Written key value w (env.record key value w).2

/-! ## Surroundings from a script -/

namespace TextMap

theorem get?_insert_self (key value : String) (m : TextMap) :
    (TextMap.insert key value m).get? key = some value := by
  induction m with
  | nil => simp [TextMap.insert, TextMap.get?]
  | cons entry m ih =>
    obtain ⟨k, v⟩ := entry
    unfold TextMap.insert
    split
    case isTrue h => simp [TextMap.get?, h]
    case isFalse h =>
      have hk : (key == k) = false := by simpa using Ne.symm h
      unfold TextMap.get? at ih ⊢
      rw [List.lookup_cons, hk]
      exact ih

theorem get?_insert_of_ne {key other : String} (h : other ≠ key) (value : String) (m : TextMap) :
    (TextMap.insert key value m).get? other = m.get? other := by
  have hother : (other == key) = false := by simpa using h
  induction m with
  | nil => simp [TextMap.insert, TextMap.get?, List.lookup_cons, hother]
  | cons entry m ih =>
    obtain ⟨k, v⟩ := entry
    unfold TextMap.get? at ih ⊢
    unfold TextMap.insert
    split
    case isTrue hk =>
      rw [hk, List.lookup_cons, List.lookup_cons, hother]
    case isFalse hk =>
      rw [List.lookup_cons, List.lookup_cons, ih]

end TextMap

namespace Script

/-- The store of a script. -/
def store : TextStore ScriptState where
  entry s key := s.entries.get? key
  writes s := s.writes

theorem asksKeep (script : Script) : script.surroundings.AsksKeep store.Same where
  refl := TextStore.Same.refl
  trans := TextStore.Same.trans
  infrastructure := TextStore.Same.refl
  configMap _ _ := TextStore.Same.refl
  workload _ _ := TextStore.Same.refl
  listNodes _ := ⟨rfl, rfl⟩
  recorded key w := by
    change store.Same w (script.recorded key w).2
    unfold Script.recorded
    cases script.recallFault <;> exact ⟨rfl, rfl⟩

theorem storesIn (script : Script) : script.surroundings.StoresIn store where
  asks := script.asksKeep
  recorded := by
    intro key w text h
    change (script.recorded key w).1 = .ok text at h
    unfold Script.recorded at h
    cases hfault : script.recallFault with
    | some e =>
      rw [hfault] at h
      cases h
    | none =>
      rw [hfault] at h
      cases h
      rfl
  record_error := by
    intro key value w e h
    change (script.record key value w).1 = .error e at h
    change store.Same w (script.record key value w).2
    unfold Script.record at h ⊢
    cases hfault : script.recordFault with
    | some e => exact ⟨rfl, rfl⟩
    | none =>
      rw [hfault] at h
      cases h
  record_ok := by
    intro key value w h
    change (script.record key value w).1 = .ok () at h
    change store.Written key value w (script.record key value w).2
    unfold Script.record at h ⊢
    cases hfault : script.recordFault with
    | some e =>
      rw [hfault] at h
      cases h
    | none =>
      exact ⟨TextMap.get?_insert_self key value w.entries,
        fun other hother => TextMap.get?_insert_of_ne hother value w.entries, rfl⟩

end Script

end NetworkRollout
