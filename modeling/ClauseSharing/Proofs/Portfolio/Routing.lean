import ClauseSharing.Portfolio
import ClauseSharing.Proofs.Publish.Pieces
import ClauseSharing.Proofs.Store.LocalStore
import ClauseSharing.Proofs.Text.Decimal

/-! # Reading back what was published

Keys are texts, and a store keeps them in the order of texts, in which the tenth record comes before
the second. What was published under a stem is read by the numbers that its keys write, so that
texts written under rising identifiers are read back in the order in which they were written
(`publishedUnder_of_numbered`). -/

namespace ClauseSharing

namespace StoreSettings

/-- The identifier that a key writes behind a stem, if it is the key of a record. -/
def identifierIn? (stem key : String) : Option Nat := do
  let identifier ← behindStem? stem key
  let number : Word ← Ranged.ofText? identifier
  some number.toNat

theorem identifierIn?_recordKey (settings : StoreSettings) {identifier : Nat}
    (bounded : identifier ≤ 4294967295) :
    identifierIn? settings.stem (settings.recordKey identifier) = some identifier := by
  have text : toString identifier = toString (identifier : Int) := by
    apply String.toList_injective
    rw [SignedDecimal.toList_toString_ofNat]
    exact Nat.toList_repr
  have behind : behindStem? settings.stem (settings.recordKey identifier) =
      some (toString identifier) := by
    have whole : (settings.recordKey identifier).toList =
        (settings.stem ++ ":").toList ++ (toString identifier).toList := String.toList_append ..
    rw [behindStem?, whole, if_pos (List.isPrefixOf_iff_prefix.mpr (List.prefix_append ..)),
      List.drop_left, String.ofList_toList]
  have read : (Ranged.ofText? (toString identifier) : Option Word) =
      some ⟨identifier, by omega, by omega⟩ := by
    rw [text]
    exact Ranged.ofText?_toString _ _
  rw [identifierIn?, behind, Option.bind_eq_bind, Option.bind_some, read]
  rfl

end StoreSettings

/-- What is published under a stem, with identifiers, by keys. -/
def numberedUnder (stem : String) (store : LocalStore) : List (Nat × String) :=
  store.values.toList.filterMap fun pair =>
    (StoreSettings.identifierIn? stem pair.1).map fun identifier => (identifier, pair.2)

theorem publishedUnder_eq (stem : String) (store : LocalStore) :
    publishedUnder stem store = (sortRising Prod.fst (numberedUnder stem store)).map Prod.snd := by
  have same : ∀ pair : Write, (do
      let identifier ← behindStem? stem pair.1
      let number : Word ← Ranged.ofText? identifier
      some (number.toNat, pair.2)) =
        (StoreSettings.identifierIn? stem pair.1).map fun identifier => (identifier, pair.2) := by
    intro pair
    simp only [StoreSettings.identifierIn?, Option.bind_eq_bind, Option.map_bind,
      Function.comp_def, Option.map_some]
  rw [publishedUnder, numberedUnder]
  simp only [← same]

theorem mem_numberedUnder {stem : String} {store : LocalStore} {identifier : Nat} {text : String} :
    (identifier, text) ∈ numberedUnder stem store ↔ ∃ key,
      store.value? key = some text ∧ StoreSettings.identifierIn? stem key = some identifier := by
  rw [numberedUnder, List.mem_filterMap]
  constructor
  · rintro ⟨⟨key, value⟩, stored, numbered⟩
    obtain ⟨number, found, same⟩ := Option.map_eq_some_iff.mp numbered
    cases same
    exact ⟨key, Std.ExtTreeMap.mem_toList_iff_getElem?_eq_some.mp stored, found⟩
  · rintro ⟨key, stored, found⟩
    refine ⟨(key, text), Std.ExtTreeMap.mem_toList_iff_getElem?_eq_some.mpr stored, ?_⟩
    exact Option.map_eq_some_iff.mpr ⟨identifier, found, rfl⟩

theorem exists_of_mem_publishedUnder {stem : String} {store : LocalStore} {record : String}
    (inside : record ∈ publishedUnder stem store) : ∃ key, store.value? key = some record := by
  rw [publishedUnder_eq, List.mem_map] at inside
  obtain ⟨⟨identifier, text⟩, sorted, rfl⟩ := inside
  rw [(sortRising_perm ..).mem_iff] at sorted
  obtain ⟨key, stored, -⟩ := mem_numberedUnder.mp sorted
  exact ⟨key, stored⟩

section

variable {settings : StoreSettings} {first : Nat} {texts : List String} {store stored : LocalStore}

theorem pairwise_numbered :
    (settings.numbered first texts).Pairwise fun one other => one.1 ≠ other.1 := by
  rw [List.pairwise_iff_getElem]
  intro one other oneBound otherBound below same
  rw [StoreSettings.length_numbered] at oneBound otherBound
  simp only [StoreSettings.numbered, List.getElem_mapIdx] at same
  have equal := (StoreSettings.recordKey_injective same).2
  omega

/-- Texts with the identifiers under which they are written. -/
def withIdentifiers (first : Nat) (texts : List String) : List (Nat × String) :=
  texts.mapIdx fun index text => (first + index, text)

theorem pairwise_withIdentifiers (first : Nat) (texts : List String) :
    (withIdentifiers first texts).Pairwise (Prod.fst · < Prod.fst ·) := by
  rw [List.pairwise_iff_getElem]
  intro one other _ _ below
  simp only [withIdentifiers, List.getElem_mapIdx]
  omega

/-- Under a stem under which nothing was published, the key of a record is one that was written. -/
theorem written_of_identifierIn? (fresh : publishedUnder settings.stem store = [])
    (room : first + texts.length ≤ 4294967295)
    (written : stored.values = (settings.numbered first texts).foldl LocalStore.write store.values)
    {key text : String} {identifier : Nat} (found : stored.value? key = some text)
    (read : StoreSettings.identifierIn? settings.stem key = some identifier) :
    key = settings.recordKey identifier ∧ (identifier, text) ∈ withIdentifiers first texts := by
  rw [LocalStore.value?, written] at found
  rcases LocalStore.mem_or_of_getElem?_writes found with new | before
  · obtain ⟨index, bound, same⟩ := List.mem_mapIdx.mp new
    cases same
    rw [settings.identifierIn?_recordKey (by omega)] at read
    cases read
    exact ⟨rfl, List.mem_mapIdx.mpr ⟨index, bound, rfl⟩⟩
  · have old : (identifier, text) ∈ numberedUnder settings.stem store :=
      mem_numberedUnder.mpr ⟨key, before, read⟩
    rw [publishedUnder_eq, List.map_eq_nil_iff] at fresh
    rw [← (sortRising_perm Prod.fst _).mem_iff, fresh] at old
    exact absurd old List.not_mem_nil

theorem perm_numberedUnder (fresh : publishedUnder settings.stem store = [])
    (room : first + texts.length ≤ 4294967295)
    (written : stored.values =
      (settings.numbered first texts).foldl LocalStore.write store.values) :
    (numberedUnder settings.stem stored).Perm (withIdentifiers first texts) := by
  have listed : (withIdentifiers first texts).Nodup :=
    (pairwise_withIdentifiers first texts).imp fun below same =>
      Nat.ne_of_lt below (congrArg Prod.fst same)
  -- Keys that write one identifier are one key, so no entry is there twice.
  have found : (numberedUnder settings.stem stored).Nodup := by
    apply List.pairwise_filterMap.mpr
    apply Std.ExtTreeMap.distinct_keys_toList.imp_of_mem
    rintro ⟨oneKey, oneText⟩ ⟨otherKey, otherText⟩ oneInside otherInside apart entry oneEntry _
      otherEntry rfl
    obtain ⟨identifier, oneRead, rfl⟩ := Option.map_eq_some_iff.mp oneEntry
    obtain ⟨_, otherRead, same⟩ := Option.map_eq_some_iff.mp otherEntry
    cases same
    have one := written_of_identifierIn? fresh room written
      (Std.ExtTreeMap.mem_toList_iff_getElem?_eq_some.mp oneInside) oneRead
    have other := written_of_identifierIn? fresh room written
      (Std.ExtTreeMap.mem_toList_iff_getElem?_eq_some.mp otherInside) otherRead
    apply apart
    change compare oneKey otherKey = .eq
    rw [one.1, other.1]
    exact Std.ReflCmp.compare_self
  rw [List.perm_ext_iff_of_nodup found listed]
  rintro ⟨identifier, text⟩
  rw [mem_numberedUnder]
  constructor
  · rintro ⟨key, stored, read⟩
    exact (written_of_identifierIn? fresh room written stored read).2
  · intro inside
    obtain ⟨index, bound, same⟩ := List.mem_mapIdx.mp inside
    cases same
    refine ⟨settings.recordKey (first + index), ?_, settings.identifierIn?_recordKey (by omega)⟩
    have new : (settings.recordKey (first + index), texts[index]) ∈ settings.numbered first texts :=
      List.mem_mapIdx.mpr ⟨index, bound, rfl⟩
    rw [LocalStore.value?, written]
    exact LocalStore.getElem?_writes_of_mem pairwise_numbered new

/-- **What is published is read back in order.** Texts that are written under rising identifiers are
read under their stem in the order in which they were written. -/
theorem publishedUnder_of_numbered (fresh : publishedUnder settings.stem store = [])
    (room : first + texts.length ≤ 4294967295)
    (written : stored.values =
      (settings.numbered first texts).foldl LocalStore.write store.values) :
    publishedUnder settings.stem stored = texts := by
  have perm : (sortRising Prod.fst (numberedUnder settings.stem stored)).Perm
      (withIdentifiers first texts) :=
    (sortRising_perm ..).trans (perm_numberedUnder fresh room written)
  have sorted : sortRising Prod.fst (numberedUnder settings.stem stored) =
      withIdentifiers first texts := by
    apply List.Perm.eq_of_pairwise _ (pairwise_sortRising Prod.fst _)
      ((pairwise_withIdentifiers first texts).imp Nat.le_of_lt) perm
    intro one other oneInside otherInside below above
    obtain ⟨index, _, rfl⟩ := List.mem_mapIdx.mp (perm.mem_iff.mp oneInside)
    obtain ⟨place, _, rfl⟩ := List.mem_mapIdx.mp otherInside
    have same : index = place := by
      dsimp only at below above
      omega
    subst same
    rfl
  rw [publishedUnder_eq, sorted]
  apply List.ext_getElem?
  intro index
  rw [withIdentifiers, List.getElem?_map, List.getElem?_mapIdx]
  cases texts[index]? <;> rfl

end

end ClauseSharing
