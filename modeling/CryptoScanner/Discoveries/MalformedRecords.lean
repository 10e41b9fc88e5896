import CryptoScanner.Discoveries.Endpoints

/-!
# Malformed discovery records

A record is passed over only after its port has been through `int` and its keys through `.get`; what
these do not read, and what the database refuses, ends the loop.
-/

namespace CryptoScanner.Discoveries

open Library Python

section

variable [PyText] (floatRepr : PyFloat → List Char) (limits : Limits) (backend : Backend)
  (discovery : Id)

/-- The call returns the number of valid records, and they are what it has stored. -/
def StoresValidRecords (values : List Json) (store : EndpointStore) : Prop :=
  ∃ store', upsertDiscoveredEndpoints floatRepr limits backend discovery 0 values store =
      (store', .ok (validRecords floatRepr limits values).length) ∧
    Upserted discovery (validRecords floatRepr limits values) store store'

/-- The record is an object, and its port is falsy or something that `int` reads. -/
def Readable (value : Json) : Prop :=
  ∃ record, value = .dict record ∧
    ∃ port, pyInt limits (pyOr ((record.lookup "port").getD .null) (.int 0)) = .ok port

omit [PyText] in
/-- The database takes the columns of the record, and its host where the triple is new. -/
def Taken (store : EndpointStore) (record : EndpointRecord) : Prop :=
  backend.takesColumns record = true ∧
    (store.endpointIds discovery record.triple = [] → backend.takesHost record.triple.host = true) ∧
    (store.targetIds record.triple = [] → backend.takesTarget record.triple.host = true)

variable {floatRepr limits backend discovery} {record other : EndpointRecord}
  {store store' : EndpointStore}

theorem readRecord_ok_iff {value : Json} :
    (∃ found, readRecord floatRepr limits value = .ok found) ↔ Readable limits value := by
  constructor
  · rintro ⟨found, hfound⟩
    cases value with
    | dict record =>
        refine ⟨record, rfl, ?_⟩
        cases hport : pyInt limits (pyOr ((record.lookup "port").getD .null) (.int 0)) with
        | ok port => exact ⟨port, rfl⟩
        | error error =>
            simp only [readRecord, readEntries, hport] at hfound
            cases hfound
    | null | bool _ | int _ | float _ | str _ | list _ => cases hfound
  · rintro ⟨record, rfl, port, hport⟩
    simp only [readRecord, readEntries, hport, bind, Except.bind]
    split
    · exact ⟨none, rfl⟩
    · split
      · exact ⟨none, rfl⟩
      · exact ⟨some _, rfl⟩

omit [PyText] in
theorem saveEndpoint_isSome_iff :
    (saveEndpoint backend discovery record store).isSome ↔
      backend.takesColumns record = true ∧ (store.endpointIds discovery record.triple = [] →
        backend.takesHost record.triple.host = true) := by
  unfold saveEndpoint
  cases hids : store.endpointIds discovery record.triple with
  | nil =>
      by_cases htakes : backend.takesHost record.triple.host = true ∧
          backend.takesColumns record = true
      · simp [htakes]
      · simp only [if_neg htakes, Option.isSome_none, Bool.false_eq_true, false_iff]
        tauto
  | cons id duplicates =>
      by_cases htakes : backend.takesColumns record = true
      · simp [htakes]
      · simp [htakes]

theorem getOrCreateTarget_ok_iff (hunique : TargetsUnique store) :
    (∃ got, getOrCreateTarget backend record store = .ok got) ↔
      (store.targetIds record.triple = [] → backend.takesTarget record.triple.host = true) := by
  unfold getOrCreateTarget
  cases hids : store.targetIds record.triple with
  | nil =>
      by_cases htakes : backend.takesTarget record.triple.host = true
      · simp [htakes, pure, Except.pure]
      · simp [htakes]
  | cons first rest =>
      cases rest with
      | nil => simp [pure, Except.pure]
      | cons second rest =>
          -- two targets of one triple have one id, and the ids are listed once
          have hmem : ∀ id ∈ [first, second], id ∈ store.targetIds record.triple := by
            intro id hid
            rw [hids]
            simp only [List.mem_cons, List.not_mem_nil, or_false] at hid ⊢
            tauto
          obtain ⟨target, htarget, htriple⟩ := mem_targetIds.mp (hmem first (by simp))
          obtain ⟨target', htarget', htriple'⟩ := mem_targetIds.mp (hmem second (by simp))
          have heq := hunique first second target target' htarget htarget'
            (htriple.trans htriple'.symm)
          have hnodup : (first :: second :: rest).Nodup := hids ▸ Table.nodup_ids _ _
          rw [heq] at hnodup
          simp at hnodup

theorem storeRecord_ok_iff (hunique : TargetsUnique store) :
    (∃ store', storeRecord backend discovery record store = (store', none)) ↔
      Taken backend discovery store record := by
  unfold Taken
  rw [← and_assoc, ← saveEndpoint_isSome_iff, ← getOrCreateTarget_ok_iff hunique]
  unfold storeRecord
  cases hsave : saveEndpoint backend discovery record store with
  | none => simp
  | some saved =>
      obtain ⟨id, middle⟩ := saved
      have htargets := (saveEndpoint_saved hsave).targets
      -- the target is looked for in the same table
      have hids : middle.targetIds record.triple = store.targetIds record.triple := by
        rw [EndpointStore.targetIds, htargets, EndpointStore.targetIds]
      have hmiddle : TargetsUnique middle := by
        unfold TargetsUnique
        rw [htargets]
        exact hunique
      have hgot : (∃ got, getOrCreateTarget backend record middle = .ok got) ↔
          ∃ got, getOrCreateTarget backend record store = .ok got := by
        rw [getOrCreateTarget_ok_iff hmiddle, getOrCreateTarget_ok_iff hunique, hids]
      simp only [autoPromoteEndpoint, Option.isSome_some, true_and, ← hgot]
      cases getOrCreateTarget backend record middle with
      | error error => simp
      | ok got => simp

omit [PyText] in
theorem endpointIds_eq_nil {triple : Triple} : store.endpointIds discovery triple = [] ↔
    ∀ id row, store.endpoints.find? id = some row → ¬ RowFor discovery triple row := by
  rw [List.eq_nil_iff_forall_not_mem]
  simp only [mem_endpointIds, not_exists, not_and]

omit [PyText] in
theorem targetIds_eq_nil {triple : Triple} : store.targetIds triple = [] ↔
    ∀ id target, store.targets.find? id = some target → targetTriple target ≠ triple := by
  rw [List.eq_nil_iff_forall_not_mem]
  simp only [mem_targetIds, not_exists, not_and, ne_eq]

omit [PyText] in
/-- What is taken of a later record does not depend on the records stored before it. -/
theorem taken_iff_of_stored (hstored : RecordStored discovery record store store')
    (htaken : Taken backend discovery store record) :
    Taken backend discovery store' other ↔ Taken backend discovery store other := by
  unfold Taken at htaken ⊢
  by_cases heq : other.triple = record.triple
  · -- the triple has its rows by now, and its host has been taken
    obtain ⟨id, row, targetId, target, hrow⟩ := hstored.has
    have hrows : store'.endpointIds discovery record.triple ≠ [] := fun hnil =>
      endpointIds_eq_nil.mp hnil id row hrow.found hrow.isFor
    have htargets : store'.targetIds record.triple ≠ [] := fun hnil =>
      targetIds_eq_nil.mp hnil targetId target hrow.targetFound hrow.sameTriple
    rw [heq]
    simp only [hrows, htargets, false_implies, and_true, iff_self_and]
    exact fun _ => htaken.2
  · have hrows : store'.endpointIds discovery other.triple = [] ↔
        store.endpointIds discovery other.triple = [] := by
      rw [endpointIds_eq_nil, endpointIds_eq_nil]
      have hother : ∀ row, RowFor discovery other.triple row →
          ¬ RowFor discovery record.triple row :=
        fun row hfor hfor' => heq (hfor.2.symm.trans hfor'.2)
      constructor
      · intro h id row hrow hfor
        exact h id row ((hstored.endpoints id row (hother row hfor)).mpr hrow) hfor
      · intro h id row hrow hfor
        exact h id row ((hstored.endpoints id row (hother row hfor)).mp hrow) hfor
    have htargets : store'.targetIds other.triple = [] ↔ store.targetIds other.triple = [] := by
      rw [targetIds_eq_nil, targetIds_eq_nil]
      constructor
      · intro h id target htarget hfor
        exact h id target ((hstored.targets id target (hfor ▸ heq)).mpr htarget) hfor
      · intro h id target htarget hfor
        exact h id target ((hstored.targets id target (hfor ▸ heq)).mp htarget) hfor
    rw [hrows, htargets]

theorem validRecords_cons (value : Json) (values : List Json) :
    validRecords floatRepr limits (value :: values) =
      (validRecord floatRepr limits value).toList ++ validRecords floatRepr limits values := by
  unfold validRecords
  rw [List.filterMap_cons]
  cases validRecord floatRepr limits value <;> rfl

theorem returns_iff {values : List Json} {saved : Nat} (hunique : TargetsUnique store) :
    (∃ store' total, upsertDiscoveredEndpoints floatRepr limits backend discovery saved values
        store = (store', .ok total)) ↔
      (∀ value ∈ values, Readable limits value) ∧
        ∀ record ∈ validRecords floatRepr limits values, Taken backend discovery store record := by
  induction values generalizing store saved with
  | nil => simp [upsertDiscoveredEndpoints, validRecords]
  | cons value values ih =>
      have hread : (∃ found, readRecord floatRepr limits value = .ok found) ↔ _ :=
        readRecord_ok_iff
      rw [List.forall_mem_cons, ← hread, upsertDiscoveredEndpoints, validRecords_cons, validRecord]
      cases hfound : readRecord floatRepr limits value with
      | error error => simp
      | ok found =>
          cases found with
          | none =>
              simp only [Except.ok.injEq, exists_eq', true_and, Option.toList_none, List.nil_append]
              exact ih hunique
          | some record =>
              simp only [Except.ok.injEq, exists_eq', true_and, Option.toList_some,
                List.singleton_append, List.forall_mem_cons]
              rw [← storeRecord_ok_iff hunique]
              cases hstore : storeRecord backend discovery record store with
              | mk next raised =>
                  cases raised with
                  | some error => simp
                  | none =>
                      have hstored := storeRecord_stored hunique hstore
                      have htaken := (storeRecord_ok_iff hunique).mp ⟨next, hstore⟩
                      have hrest := @ih next (saved + 1) hstored.unique
                      simp only [taken_iff_of_stored hstored htaken] at hrest
                      simp only [Prod.mk.injEq, and_true, exists_eq', true_and]
                      exact hrest

end

/-- **Every record is stored or passed over** exactly if each is an object with a port that is falsy
or that `int` reads, and the database takes the valid ones. -/
theorem storesValidRecords_iff [PyText] {floatRepr : PyFloat → List Char} {limits : Limits}
    {backend : Backend} {discovery : Id} {store : EndpointStore} (hunique : TargetsUnique store)
    (values : List Json) :
    StoresValidRecords floatRepr limits backend discovery values store ↔
      (∀ value ∈ values, Readable limits value) ∧
        ∀ record ∈ validRecords floatRepr limits values,
          Taken backend discovery store record := by
  have hreturns : (∃ store' total, upsertDiscoveredEndpoints floatRepr limits backend discovery 0
      values store = (store', .ok total)) ↔ _ := returns_iff hunique
  rw [← hreturns]
  constructor
  · rintro ⟨store', hcall, _⟩
    exact ⟨store', _, hcall⟩
  · rintro ⟨store', total, hcall⟩
    obtain ⟨hall, htotal⟩ := (upserted_nil hunique).of_loop hcall
    rw [Nat.zero_add] at htotal
    exact ⟨store', htotal ▸ hcall, hall⟩

/-- The records of two hosts, and between them one whose port is no number. -/
def wordPort : List Json :=
  [.dict [("host", .str "10.0.0.5"), ("port", .int 443)],
    .dict [("host", .str "10.0.0.6"), ("port", .str "abc")],
    .dict [("host", .str "10.0.0.7"), ("port", .int 22)]]

theorem agentRecords_stored : letI := asciiText
    StoresValidRecords (fun _ => []) ⟨1000, 4300⟩ takesAll 1 agentRecords duplicatedRows := by
  let := asciiText
  have hunique : TargetsUnique duplicatedRows := fun _ _ _ _ h => nomatch h
  rw [storesValidRecords_iff hunique]
  constructor
  · intro value hvalue
    simp only [agentRecords, List.mem_cons, List.not_mem_nil, or_false] at hvalue
    rcases hvalue with rfl | rfl | rfl | rfl
    · exact ⟨_, rfl, 443, by decide +kernel⟩
    · exact ⟨_, rfl, 70000, by decide +kernel⟩
    · exact ⟨_, rfl, 22, by decide +kernel⟩
    · exact ⟨_, rfl, 22, by decide +kernel⟩
  · exact fun record _ => ⟨rfl, fun _ => rfl, fun _ => rfl⟩

/-- The call raises after the first record, and the third one is not stored. -/
theorem wordPort_aborts : letI := asciiText
    ¬ ∀ (values : List Json) (store : EndpointStore), TargetsUnique store →
      StoresValidRecords (fun _ => []) ⟨1000, 4300⟩ takesAll 1 values store := by
  let := asciiText
  intro h
  obtain ⟨store', hcall, _⟩ := h wordPort {} fun _ _ _ _ h => nomatch h
  have hraised : (upsertDiscoveredEndpoints (fun _ => []) ⟨1000, 4300⟩ takesAll 1 0 wordPort {}).2 =
      .error (.python .value) := by decide +kernel
  rw [hcall] at hraised
  cases hraised

end CryptoScanner.Discoveries
