import DdsBridge.ReaderInvariant

/-!
# Leaving readers

`unsubscribe` and `remove_session` are the same change to the registry for one or for all of a
session's subscriptions; it keeps the invariant.
-/

namespace DdsBridge

open ReaderRegistry

/-! ## The change -/

section
variable {reg reg' : ReaderRegistry} {s : UInt64} {gone : String → String → Prop}

/-- The session holds a subscription to the reader that is going. -/
def Holds (reg : ReaderRegistry) (s : UInt64) (gone : String → String → Prop) (r : UInt64) : Prop :=
  ∃ topicName typeName, gone topicName typeName ∧
    reg.sessionSubscriptions.lookup (s, topicName, typeName) = some r

/-- A session gave up its subscriptions in `gone`: their readers lose it, and go with their keys if
nobody else is left. -/
structure Leaves (reg : ReaderRegistry) (s : UInt64) (gone : String → String → Prop)
    (reg' : ReaderRegistry) : Prop where
  subscriptions : ∀ s' topicName typeName r,
    reg'.sessionSubscriptions.lookup (s', topicName, typeName) = some r ↔
      reg.sessionSubscriptions.lookup (s', topicName, typeName) = some r ∧
        ¬ (s' = s ∧ gone topicName typeName)
  readers : ∀ r x, reg'.readers.lookup r = some x ↔ ∃ reader, reg.readers.lookup r = some reader ∧
    (¬ Holds reg s gone r ∧ x = reader ∨
      Holds reg s gone r ∧ x = reader.leave s ∧ ∃ s', s' ∈ x.subscribers)
  keys : ∀ key r, reg'.keyToReader.lookup key = some r ↔
    reg.keyToReader.lookup key = some r ∧ ∃ x, reg'.readers.lookup r = some x

@[simp] theorem mem_leave {reader : DdsReader} {s' : UInt64} :
    s' ∈ (reader.leave s).subscribers ↔ s' ≠ s ∧ s' ∈ reader.subscribers := AList.mem_erase

theorem holds_iff (hinv : RegistryInv reg) {r : UInt64} {reader : DdsReader}
    (hr : reg.readers.lookup r = some reader) : Holds reg s gone r ↔
      gone reader.topic.topicName reader.topic.typeName ∧ s ∈ reader.subscribers := by
  refine ⟨fun h => ?_, fun h => ?_⟩
  · obtain ⟨t, T, hgone, h⟩ := h
    obtain ⟨x, hx, ht, hT⟩ := hinv.live s t T r h
    rw [hr] at hx
    cases hx
    subst ht hT
    exact ⟨hgone, (hinv.subscribed r reader s hr).mpr h⟩
  · obtain ⟨hgone, hs⟩ := h
    exact ⟨_, _, hgone, (hinv.subscribed r reader s hr).mp hs⟩

theorem KeysInv.of_kept (hinv : KeysInv reg)
    (hreaders : ∀ r x, reg'.readers.lookup r = some x →
      ∃ reader, reg.readers.lookup r = some reader ∧ x.key = reader.key)
    (hkeys : ∀ key r, reg'.keyToReader.lookup key = some r ↔
      reg.keyToReader.lookup key = some r ∧ ∃ x, reg'.readers.lookup r = some x) : KeysInv reg' := by
  intro key r
  rw [hkeys, hinv key r]
  refine ⟨fun h => ?_, fun h => ?_⟩
  · obtain ⟨⟨reader, hr, hkey⟩, x, hx⟩ := h
    obtain ⟨y, hy, hxy⟩ := hreaders r x hx
    rw [hr] at hy
    cases hy
    exact ⟨x, hx, hxy.trans hkey⟩
  · obtain ⟨x, hx, hkey⟩ := h
    obtain ⟨reader, hr, hxr⟩ := hreaders r x hx
    exact ⟨⟨reader, hr, hxr.symm.trans hkey⟩, x, hx⟩

theorem Leaves.inv (hl : Leaves reg s gone reg') (hinv : RegistryInv reg) : RegistryInv reg' where
  subscribed := by
    intro r x s' hx
    obtain ⟨reader, hr, hcase⟩ := (hl.readers r x).mp hx
    have hheld : Holds reg s gone r ↔ _ := holds_iff hinv hr
    have hold := hinv.subscribed r reader s' hr
    rw [hl.subscriptions]
    rcases hcase with ⟨hno, rfl⟩ | ⟨hyes, rfl, -⟩
    · rw [← hold]
      refine ⟨fun hs' => ⟨hs', ?_⟩, And.left⟩
      intro h
      obtain ⟨rfl, hgone⟩ := h
      exact hno (hheld.mpr ⟨hgone, hs'⟩)
    · have hgone := (hheld.mp hyes).1
      rw [mem_leave]
      change _ ↔ reg.sessionSubscriptions.lookup (s', reader.topic.topicName, reader.topic.typeName) = some r ∧ _
      rw [← hold]
      refine ⟨fun h => ?_, fun h => ?_⟩
      · obtain ⟨hne, hs'⟩ := h
        exact ⟨hs', fun h => hne h.1⟩
      · obtain ⟨hs', hne⟩ := h
        exact ⟨fun h => hne ⟨h, hgone⟩, hs'⟩
  nonempty := by
    intro r x hx
    obtain ⟨reader, hr, ⟨-, rfl⟩ | ⟨-, -, hsome⟩⟩ := (hl.readers r x).mp hx
    · exact hinv.nonempty r x hr
    · exact hsome
  keys := by
    refine hinv.keys.of_kept (fun r x hx => ?_) hl.keys
    obtain ⟨reader, hr, ⟨-, rfl⟩ | ⟨-, rfl, -⟩⟩ := (hl.readers r x).mp hx
    · exact ⟨x, hr, rfl⟩
    · exact ⟨reader, hr, rfl⟩
  live := by
    intro s' t T r h
    obtain ⟨hold, hne⟩ := (hl.subscriptions s' t T r).mp h
    obtain ⟨reader, hr, rfl, rfl⟩ := hinv.live s' t T r hold
    by_cases hyes : Holds reg s gone r
    · -- the subscription that remains is another session's, so the reader remains
      have hgone := ((holds_iff hinv hr).mp hyes).1
      have hs' : s' ∈ (reader.leave s).subscribers :=
        mem_leave.mpr ⟨fun e => hne ⟨e, hgone⟩, (hinv.subscribed r reader s' hr).mpr hold⟩
      exact ⟨reader.leave s, (hl.readers r _).mpr ⟨reader, hr, .inr ⟨hyes, rfl, s', hs'⟩⟩, rfl, rfl⟩
    · exact ⟨reader, (hl.readers r _).mpr ⟨reader, hr, .inl ⟨hyes, rfl⟩⟩, rfl, rfl⟩

theorem Leaves.notMem (hl : Leaves reg s gone reg') (hinv : RegistryInv reg) {r : UInt64} {x : DdsReader}
    (hx : reg'.readers.lookup r = some x) (hgone : gone x.topic.topicName x.topic.typeName) :
    s ∉ x.subscribers := by
  rw [(hl.inv hinv).subscribed r x s hx, hl.subscriptions]
  intro h
  obtain ⟨-, h⟩ := h
  exact h ⟨rfl, hgone⟩

theorem Leaves.last (hl : Leaves reg s gone reg') (hinv : RegistryInv reg) {r : UInt64} {reader : DdsReader}
    (hr : reg.readers.lookup r = some reader) (hgone : gone reader.topic.topicName reader.topic.typeName)
    (honly : ∀ s' ∈ reader.subscribers, s' = s) :
    reg'.readers.lookup r = none ∧ ∀ key, reg'.keyToReader.lookup key ≠ some r := by
  have hnone : reg'.readers.lookup r = none := by
    rw [Option.eq_none_iff_forall_not_mem]
    intro x hx
    obtain ⟨y, hy, hcase⟩ := (hl.readers r x).mp hx
    rw [hr] at hy
    cases hy
    rcases hcase with ⟨hno, rfl⟩ | ⟨-, rfl, s', hs'⟩
    · obtain ⟨s', hs'⟩ := hinv.nonempty r x hr
      exact hno ((holds_iff hinv hr).mpr ⟨hgone, honly s' hs' ▸ hs'⟩)
    · rw [mem_leave] at hs'
      exact hs'.1 (honly s' hs'.2)
  refine ⟨hnone, fun key hk => ?_⟩
  obtain ⟨x, hx⟩ := ((hl.keys key r).mp hk).2
  rw [hnone] at hx
  cases hx

end

/-! ## `unsubscribe` -/

section
variable {reg : ReaderRegistry} {s : UInt64} {topicName typeName : String}

theorem unsubscribe_none (h : reg.sessionSubscriptions.lookup (s, topicName, typeName) = none) :
    reg.unsubscribe topicName typeName s = (false, reg) := by
  simp only [unsubscribe, h]

theorem unsubscribe_some {r : UInt64} {reader : DdsReader}
    (h : reg.sessionSubscriptions.lookup (s, topicName, typeName) = some r)
    (hr : reg.readers.lookup r = some reader) :
    ∃ reg', reg.unsubscribe topicName typeName s = (true, reg') ∧
      (∀ a, reg'.sessionSubscriptions.lookup a =
        if a = (s, topicName, typeName) then none else reg.sessionSubscriptions.lookup a) ∧
      (∀ a, reg'.readers.lookup a = if a = r then
        (if (reader.leave s).subscribers.isEmpty then none else some (reader.leave s))
        else reg.readers.lookup a) ∧
      (∀ key, reg'.keyToReader.lookup key = if (reader.leave s).subscribers.isEmpty then
        (reg.keyToReader.lookup key).filter (· != r) else reg.keyToReader.lookup key) := by
  by_cases hempty : (reader.leave s).subscribers.isEmpty
  · refine ⟨_, by simp only [unsubscribe, h, hr, hempty, if_true]; rfl, ?_, ?_, ?_⟩
    · exact fun a => Table.lookup_erase_eq _ _ _
    · intro a
      rw [Table.lookup_erase_eq, Table.lookup_insert_eq, if_pos hempty]
      by_cases ha : a = r
      · rw [if_pos ha, if_pos ha]
      · rw [if_neg ha, if_neg ha, if_neg ha]
    · intro key
      rw [Table.lookup_retain, if_pos hempty]
  · refine ⟨_, by simp only [unsubscribe, h, hr, hempty, Bool.false_eq_true, if_false]; rfl, ?_, ?_, ?_⟩
    · exact fun a => Table.lookup_erase_eq _ _ _
    · intro a
      rw [Table.lookup_insert_eq, if_neg hempty]
    · intro key
      rw [if_neg hempty]

theorem unsubscribe_keys {reg' : ReaderRegistry} (hinv : KeysInv reg) {r : UInt64} {reader : DdsReader}
    (hreaders : ∀ a, reg'.readers.lookup a = if a = r then
      (if (reader.leave s).subscribers.isEmpty then none else some (reader.leave s)) else reg.readers.lookup a)
    (hkeys : ∀ key, reg'.keyToReader.lookup key = if (reader.leave s).subscribers.isEmpty then
      (reg.keyToReader.lookup key).filter (· != r) else reg.keyToReader.lookup key) (key : ReaderKey)
    (a : UInt64) : reg'.keyToReader.lookup key = some a ↔
      reg.keyToReader.lookup key = some a ∧ ∃ x, reg'.readers.lookup a = some x := by
  have hlive : reg.keyToReader.lookup key = some a → ∃ x, reg.readers.lookup a = some x := fun hk =>
    let ⟨y, hy, _⟩ := (hinv key a).mp hk
    ⟨y, hy⟩
  rw [hkeys, hreaders]
  by_cases hem : (reader.leave s).subscribers.isEmpty = true
  · rw [if_pos hem, if_pos hem, Option.filter_eq_some_iff]
    by_cases ha : a = r
    · simp [ha]
    · simpa [ha] using hlive
  · rw [if_neg hem, if_neg hem]
    by_cases ha : a = r
    · simp [ha]
    · simpa [ha] using hlive

theorem unsubscribe_keysInv (hinv : KeysInv reg) : KeysInv (reg.unsubscribe topicName typeName s).2 := by
  cases h : reg.sessionSubscriptions.lookup (s, topicName, typeName) with
  | none =>
    rw [unsubscribe_none h]
    exact hinv
  | some r =>
    cases hr : reg.readers.lookup r with
    | none =>
      simp only [unsubscribe, h, hr]
      exact hinv
    | some reader =>
      obtain ⟨reg', he, -, hreaders, hkeys⟩ := unsubscribe_some h hr
      rw [he]
      refine hinv.of_kept (fun a x hx => ?_) (unsubscribe_keys hinv hreaders hkeys)
      rw [hreaders] at hx
      by_cases ha : a = r
      · subst ha
        rw [if_pos rfl] at hx
        by_cases hem : (reader.leave s).subscribers.isEmpty = true
        · rw [if_pos hem] at hx
          cases hx
        · rw [if_neg hem] at hx
          cases hx
          exact ⟨reader, hr, rfl⟩
      · rw [if_neg ha] at hx
        exact ⟨x, hx, rfl⟩

theorem unsubscribe_leaves (hinv : RegistryInv reg) :
    Leaves reg s (fun t T => t = topicName ∧ T = typeName) (reg.unsubscribe topicName typeName s).2 := by
  cases h : reg.sessionSubscriptions.lookup (s, topicName, typeName) with
  | none =>
    have hno : ∀ r, ¬ Holds reg s (fun t T => t = topicName ∧ T = typeName) r := by
      rintro r ⟨t, T, ⟨rfl, rfl⟩, hh⟩
      rw [h] at hh
      cases hh
    rw [unsubscribe_none h]
    refine ⟨fun s' t T r => ⟨fun hh => ⟨hh, ?_⟩, And.left⟩, fun r x => ?_, fun key r => ⟨fun hk => ?_, And.left⟩⟩
    · intro h
      obtain ⟨rfl, rfl, rfl⟩ := h
      rw [h] at hh
      cases hh
    · simp [hno r]
    · obtain ⟨reader, hr, -⟩ := (hinv.keys key r).mp hk
      exact ⟨hk, reader, hr⟩
  | some r =>
    obtain ⟨reader, hr, ht, hT⟩ := hinv.live s topicName typeName r h
    obtain ⟨reg', he, hsubs, hreaders, hkeys⟩ := unsubscribe_some h hr
    have hheld : ∀ a, Holds reg s (fun t T => t = topicName ∧ T = typeName) a ↔ a = r := by
      intro a
      constructor
      · intro h
        obtain ⟨t, T, ⟨rfl, rfl⟩, hh⟩ := h
        rw [h] at hh
        exact (Option.some.inj hh).symm
      · rintro rfl
        exact ⟨topicName, typeName, ⟨rfl, rfl⟩, h⟩
    have hempty : (reader.leave s).subscribers.isEmpty = true ↔ ∀ s', s' ∉ (reader.leave s).subscribers :=
      TableSet.isEmpty_iff _
    rw [he]
    constructor
    · intro s' t T a
      rw [hsubs]
      by_cases hkey : s' = s ∧ t = topicName ∧ T = typeName
      · simp [hkey]
      · simp [hkey]
    · intro a x
      rw [hreaders, hheld]
      by_cases ha : a = r
      · subst ha
        by_cases hem : (reader.leave s).subscribers.isEmpty = true
        · have hnobody := hempty.mp hem
          simp only [hem, if_true, hr]
          apply iff_of_false (by simp)
          rintro ⟨y, hy, ⟨hne, -⟩ | ⟨-, rfl, s', hs'⟩⟩
          · exact hne trivial
          · cases hy
            exact hnobody s' hs'
        · have hsome : ∃ s', s' ∈ (reader.leave s).subscribers := by
            by_contra hno
            exact hem (hempty.mpr fun s' hs' => hno ⟨s', hs'⟩)
          simp only [hem, if_true, hr, Bool.false_eq_true, if_false, Option.some.injEq, not_true_eq_false,
            false_and, true_and, false_or, exists_eq_left']
          constructor
          · rintro rfl
            exact ⟨rfl, hsome⟩
          · intro h
            obtain ⟨rfl, -⟩ := h
            rfl
      · simp [ha]
    · exact unsubscribe_keys hinv.keys hreaders hkeys

end

/-! ## `remove_session` -/

section
variable {s : UInt64}

theorem leaveAll_readers : ∀ (l : List UInt64) (readers : Table UInt64 DdsReader) (a : UInt64), l.Nodup →
    (leaveAll s l readers).1.lookup a =
      if a ∈ l then (readers.lookup a).map fun reader => reader.leave s else readers.lookup a
  | [], readers, a, _ => by simp [leaveAll]
  | r :: l, readers, a, hn => by
    obtain ⟨hr, hl⟩ := List.nodup_cons.mp hn
    unfold leaveAll
    cases h : readers.lookup r with
    | none =>
      simp only
      rw [leaveAll_readers l readers a hl]
      by_cases ha : a = r
      · subst ha
        simp [hr, h]
      · simp [ha]
    | some reader =>
      simp only
      rw [leaveAll_readers l _ a hl, Table.lookup_insert_eq]
      by_cases ha : a = r
      · subst ha
        simp [hr, h]
      · simp [ha]

theorem mem_leaveAll : ∀ (l : List UInt64) (readers : Table UInt64 DdsReader) (a : UInt64), l.Nodup →
    (a ∈ (leaveAll s l readers).2 ↔ a ∈ l ∧ ∃ reader, readers.lookup a = some reader ∧
      (reader.leave s).subscribers.isEmpty = true)
  | [], readers, a, _ => by simp [leaveAll]
  | r :: l, readers, a, hn => by
    obtain ⟨hr, hl⟩ := List.nodup_cons.mp hn
    unfold leaveAll
    cases h : readers.lookup r with
    | none =>
      simp only
      rw [mem_leaveAll l readers a hl]
      by_cases ha : a = r
      · subst ha
        simp [hr, h]
      · simp [ha]
    | some reader =>
      have ih := mem_leaveAll l (readers.insert r (reader.leave s)) a hl
      rw [Table.lookup_insert_eq] at ih
      simp only
      by_cases hem : (reader.leave s).subscribers.isEmpty = true
      · rw [if_pos hem, List.mem_cons, ih]
        by_cases ha : a = r
        · subst ha
          simp [h, hem]
        · simp [ha]
      · rw [if_neg hem, ih]
        by_cases ha : a = r
        · subst ha
          simp [hr, h, hem]
        · simp [ha]

variable {reg : ReaderRegistry}

theorem mem_subKeys {a : UInt64 × String × String} :
    a ∈ reg.subKeys s ↔ a.1 = s ∧ ∃ r, reg.sessionSubscriptions.lookup a = some r := by
  rw [subKeys, List.mem_filter, Table.mem_keys_iff, beq_iff_eq, and_comm]

theorem mem_affectedReaders {r : UInt64} :
    r ∈ reg.affectedReaders s ↔ Holds reg s (fun _ _ => True) r := by
  rw [affectedReaders, List.mem_dedup, List.mem_filterMap]
  refine ⟨fun h => ?_, fun h => ?_⟩
  · obtain ⟨⟨s', t, T⟩, hmem, h⟩ := h
    obtain ⟨rfl, -⟩ := mem_subKeys.mp hmem
    exact ⟨t, T, trivial, h⟩
  · obtain ⟨t, T, -, h⟩ := h
    exact ⟨(s, t, T), mem_subKeys.mpr ⟨rfl, r, h⟩, h⟩

theorem removeSession_readers (r : UInt64) (x : DdsReader) :
    (reg.removeSession s).readers.lookup r = some x ↔
      ∃ reader, reg.readers.lookup r = some reader ∧ (¬ Holds reg s (fun _ _ => True) r ∧ x = reader ∨
        Holds reg s (fun _ _ => True) r ∧ x = reader.leave s ∧ ∃ s', s' ∈ x.subscribers) := by
  have hnodup : (reg.affectedReaders s).Nodup := List.nodup_dedup _
  have hremoved := mem_leaveAll (s := s) (reg.affectedReaders s) reg.readers r hnodup
  have hkept := leaveAll_readers (s := s) (reg.affectedReaders s) reg.readers r hnodup
  simp only [removeSession, Table.lookup_eraseAll, hkept, ← mem_affectedReaders]
  by_cases hh : r ∈ reg.affectedReaders s
  · cases hr : reg.readers.lookup r with
    | none => simp
    | some reader =>
      have hempty : (reader.leave s).subscribers.isEmpty = true ↔
          ∀ s', s' ∉ (reader.leave s).subscribers := TableSet.isEmpty_iff _
      rw [hr] at hremoved
      by_cases hem : ∃ s', s' ∈ (reader.leave s).subscribers
      · have hno : r ∉ (leaveAll s (reg.affectedReaders s) reg.readers).2 := by
          rw [hremoved]
          rintro ⟨-, _, ⟨⟩, he⟩
          obtain ⟨s', hs'⟩ := hem
          exact hempty.mp he s' hs'
        rw [if_neg hno, if_pos hh]
        constructor
        · rintro ⟨⟩
          exact ⟨reader, rfl, .inr ⟨hh, rfl, hem⟩⟩
        · rintro ⟨_, ⟨⟩, ⟨hn, -⟩ | ⟨-, rfl, -⟩⟩
          · exact absurd hh hn
          · rfl
      · have hyes : r ∈ (leaveAll s (reg.affectedReaders s) reg.readers).2 :=
          hremoved.mpr ⟨hh, reader, rfl, hempty.mpr fun s' hs' => hem ⟨s', hs'⟩⟩
        rw [if_pos hyes]
        apply iff_of_false (by simp)
        rintro ⟨_, ⟨⟩, ⟨hn, -⟩ | ⟨-, rfl, hs⟩⟩
        · exact hn hh
        · exact hem hs
  · have hno : r ∉ (leaveAll s (reg.affectedReaders s) reg.readers).2 := fun h => hh (hremoved.mp h).1
    simp [hh, hno]

theorem removeSession_keys (hinv : KeysInv reg) (key : ReaderKey) (r : UInt64) :
    (reg.removeSession s).keyToReader.lookup key = some r ↔
      reg.keyToReader.lookup key = some r ∧ ∃ x, (reg.removeSession s).readers.lookup r = some x := by
  have hremoved := mem_leaveAll (s := s) (reg.affectedReaders s) reg.readers r (List.nodup_dedup _)
  have hkeys : (reg.removeSession s).keyToReader.lookup key = (reg.keyToReader.lookup key).filter
      fun rid => !(leaveAll s (reg.affectedReaders s) reg.readers).2.contains rid :=
    Table.lookup_retain _ _ _
  simp only [hkeys, Option.filter_eq_some_iff, removeSession_readers]
  refine and_congr_right fun hk => ?_
  obtain ⟨reader, hr, -⟩ := (hinv key r).mp hk
  have hempty : (reader.leave s).subscribers.isEmpty = true ↔
      ∀ s', s' ∉ (reader.leave s).subscribers := TableSet.isEmpty_iff _
  rw [Bool.not_eq_true', ← Bool.not_eq_true, List.contains_iff_mem, hremoved, mem_affectedReaders]
  constructor
  · intro h
    by_cases hh : Holds reg s (fun _ _ => True) r
    · obtain ⟨s', hs'⟩ := not_forall_not.mp fun hno => h ⟨hh, reader, hr, hempty.mpr hno⟩
      exact ⟨_, reader, hr, .inr ⟨hh, rfl, s', hs'⟩⟩
    · exact ⟨reader, reader, hr, .inl ⟨hh, rfl⟩⟩
  · rintro ⟨x, y, hy, hcase⟩ ⟨hh, z, hz, he⟩
    rw [hr] at hy hz
    cases hy
    cases hz
    rcases hcase with ⟨hno, -⟩ | ⟨-, rfl, s', hs'⟩
    · exact hno hh
    · exact hempty.mp he s' hs'

theorem removeSession_keysInv (hinv : KeysInv reg) : KeysInv (reg.removeSession s) := by
  refine hinv.of_kept (fun r x hx => ?_) (removeSession_keys hinv)
  obtain ⟨reader, hr, ⟨-, rfl⟩ | ⟨-, rfl, -⟩⟩ := (removeSession_readers r x).mp hx
  · exact ⟨x, hr, rfl⟩
  · exact ⟨reader, hr, rfl⟩

theorem removeSession_leaves (hinv : RegistryInv reg) :
    Leaves reg s (fun _ _ => True) (reg.removeSession s) where
  subscriptions := by
    intro s' t T r
    simp only [removeSession, Table.lookup_eraseAll, and_true]
    by_cases hmem : (s', t, T) ∈ reg.subKeys s
    · have hs : s' = s := (mem_subKeys.mp hmem).1
      rw [if_pos hmem]
      simp [hs]
    · rw [if_neg hmem]
      exact ⟨fun h => ⟨h, fun hs => hmem (mem_subKeys.mpr ⟨hs, r, h⟩)⟩, And.left⟩
  readers := removeSession_readers
  keys := removeSession_keys hinv.keys

end

end DdsBridge
