import HashJoin.Proofs.Memory.Loading

/-!
# Runs under another limit

A run that reserves memory and succeeds does the same under every limit that is no less than the
peak it reached, and meets a refusal under every smaller one that was enough up to its start. The
limit has no other effect: which reservations are made does not depend on it.

## Main definitions

* `Budget.withLimit` — the same budget under another limit.
* `Metered` — what a run does under the other limits.

## Main results

* `Metered.bind` — one run behind another.
* `metered_insert`, `metered_link`, `metered_absorb` — the operations of the parts.
* `metered_fill` — the whole build phase.
-/

namespace HashJoin

/-- The same budget under another limit. -/
def Budget.withLimit (b : Budget) (limit : Nat) : Budget := { b with limit := limit }

/-- A run takes the budget `b` to `b'`. Under other limits it ends as `granted` says if its peak
fits, and as `refused` says otherwise. -/
structure Metered (b b' : Budget) (granted refused : Nat → Prop) : Prop where
  /-- The peak is no less than what is reserved. -/
  le_peak : b'.reserved ≤ b'.peak
  /-- The peak does not fall. -/
  peak_le : b.peak ≤ b'.peak
  /-- The run under a sufficient limit. -/
  granted : ∀ limit, b'.peak ≤ limit → granted limit
  /-- The run under a limit that stops it. -/
  refused : ∀ limit, b.peak ≤ limit → limit < b'.peak → refused limit

namespace Metered

variable {b b₁ b' : Budget} {granted granted₁ granted₂ refused refused₁ refused₂ : Nat → Prop}

/-- A run that reserves nothing. -/
theorem same (hb : b.reserved ≤ b.peak) (h : ∀ limit, granted limit) :
    Metered b b granted refused :=
  ⟨hb, Nat.le_refl _, fun limit _ => h limit,
    fun _ hle hlt => absurd hle (Nat.not_le_of_lt hlt)⟩

theorem mono (h : Metered b b' granted₁ refused₁) (hgranted : ∀ limit, granted₁ limit → granted limit)
    (hrefused : ∀ limit, refused₁ limit → refused limit) : Metered b b' granted refused :=
  ⟨h.le_peak, h.peak_le, fun limit hle => hgranted limit (h.granted limit hle),
    fun limit hle hlt => hrefused limit (h.refused limit hle hlt)⟩

/-- One run behind another: a limit that stops the first one stops both. -/
theorem bind (h₁ : Metered b b₁ granted₁ refused₁) (h₂ : Metered b₁ b' granted₂ refused₂)
    (hgranted : ∀ limit, granted₁ limit → granted₂ limit → granted limit)
    (hfirst : ∀ limit, refused₁ limit → refused limit)
    (hsecond : ∀ limit, granted₁ limit → refused₂ limit → refused limit) :
    Metered b b' granted refused := by
  refine ⟨h₂.le_peak, Nat.le_trans h₁.peak_le h₂.peak_le, ?_, ?_⟩
  · intro limit hle
    have hle₁ := Nat.le_trans h₂.peak_le hle
    exact hgranted limit (h₁.granted limit hle₁) (h₂.granted limit hle)
  -- a limit that is too small refuses the first part, or else the second
  · intro limit hle hlt
    rcases Nat.lt_or_ge limit b₁.peak with hlt₁ | hle₁
    · exact hfirst limit (h₁.refused limit hle hlt₁)
    · exact hsecond limit (h₁.granted limit hle₁) (h₂.refused limit hle₁ hlt)

/-- What is given back at the end has no part in it. -/
theorem settle {b'' : Budget} (h : Metered b b' granted refused) (hpeak : b''.peak = b'.peak)
    (hreserved : b''.reserved ≤ b'.reserved) : Metered b b'' granted refused := by
  refine ⟨?_, ?_, ?_, ?_⟩
  · rw [hpeak]
    exact Nat.le_trans hreserved h.le_peak
  · rw [hpeak]
    exact h.peak_le
  · rw [hpeak]
    exact h.granted
  · rw [hpeak]
    exact h.refused

theorem release (h : Metered b b' granted refused) (bytes : Nat) :
    Metered b (b'.release bytes) granted refused :=
  h.settle rfl (Nat.sub_le _ _)

end Metered

/-! ### Reservations -/

variable {b b' : Budget}

theorem metered_reserve {bytes : Nat} (hb : b.reserved ≤ b.peak) (h : b.reserve bytes = .ok b') :
    Metered b b' (fun limit => (b.withLimit limit).reserve bytes = .ok (b'.withLimit limit))
      (fun limit => ∃ refusal, (b.withLimit limit).reserve bytes = .error refusal) := by
  obtain ⟨-, rfl⟩ := Budget.reserve_eq_ok_iff.mp h
  refine ⟨Nat.le_max_right _ _, Nat.le_max_left _ _, ?_, ?_⟩
  · intro limit hle
    refine Budget.reserve_eq_ok_iff.mpr ⟨?_, rfl⟩
    have hle : max b.peak (b.reserved + bytes) ≤ limit := hle
    show bytes ≤ limit - b.reserved
    omega
  · intro limit hle hlt
    refine ⟨⟨bytes, limit - b.reserved⟩, if_neg ?_⟩
    have hlt : limit < max b.peak (b.reserved + bytes) := hlt
    show ¬ bytes ≤ limit - b.reserved
    omega

namespace SlotTable

variable {t t' : SlotTable} {hash : UInt32}

theorem metered_reserveBuckets {buckets : Nat} (hb : b.reserved ≤ b.peak)
    (h : reserveBuckets buckets b = .ok b') :
    Metered b b' (fun limit => reserveBuckets buckets (b.withLimit limit) = .ok (b'.withLimit limit))
      (fun limit => ∃ refusal,
        reserveBuckets buckets (b.withLimit limit) = .error (.retryAfterSpill refusal)) := by
  have hword : bucketBytes * buckets ≤ wordMax := by
    apply Decidable.byContradiction
    intro hnot
    rw [reserveBuckets, if_neg hnot] at h
    cases h
  refine (metered_reserve hb (reserve_of_reserveBuckets h)).mono ?_ ?_
  · intro limit hres
    rw [reserveBuckets, if_pos hword, hres]
  · rintro limit ⟨refusal, hres⟩
    exact ⟨refusal, by rw [reserveBuckets, if_pos hword, hres]⟩

/-! ### Room for one more entry -/

theorem makeRoom_of_fits (h : t.buckets ≠ 0 → t.exceeds (t.length + 1) = false) (b : Budget) :
    t.makeRoom b = (.ok (), t, b) := by
  rw [makeRoom]
  by_cases hzero : t.buckets = 0
  · rw [dif_pos hzero]
  · rw [dif_neg hzero, if_neg (by rw [h hzero]; exact Bool.false_ne_true)]

theorem makeRoom_of_refused {e : TableError} (hpos : t.buckets ≠ 0)
    (hexceeds : t.exceeds (t.length + 1) = true)
    (h : reserveBuckets (2 * t.buckets) b = .error e) : t.makeRoom b = (.error e, t, b) := by
  rw [makeRoom, dif_neg hpos, if_pos hexceeds]
  split
  · next hres =>
    rw [hres] at h
    cases h
    rfl
  · next hres =>
    rw [hres] at h
    cases h

theorem makeRoom_of_granted (hpos : t.buckets ≠ 0) (hexceeds : t.exceeds (t.length + 1) = true)
    (h : reserveBuckets (2 * t.buckets) b = .ok b') :
    t.makeRoom b = t.doubled.makeRoom (b'.release (bucketBytes * t.buckets)) := by
  rw [makeRoom, dif_neg hpos, if_pos hexceeds]
  split
  · next hres =>
    rw [hres] at h
    cases h
  · next hres =>
    rw [hres] at h
    cases h
    rfl

/-- The doublings are the same under every limit that admits them. -/
theorem metered_makeRoom (hb : b.reserved ≤ b.peak) (h : t.makeRoom b = (.ok (), t', b')) :
    Metered b b' (fun limit => t.makeRoom (b.withLimit limit) = (.ok (), t', b'.withLimit limit))
      (fun limit => ∃ refusal, (t.makeRoom (b.withLimit limit)).1 =
        .error (.retryAfterSpill refusal)) := by
  fun_induction t.makeRoom b with
  | case1 t b hzero =>
    cases h
    exact .same hb fun limit => makeRoom_of_fits (fun hpos => absurd hzero hpos) _
  | case2 => cases h
  | case3 t b hpos hexceeds granted hres _ ih =>
    -- the peak of a doubling is seen before the old buckets are given back
    have hgrant := (metered_reserveBuckets hb hres).release (bucketBytes * t.buckets)
    refine hgrant.bind (ih hgrant.le_peak h) ?_ ?_ ?_
    · intro limit hok hrest
      rw [makeRoom_of_granted hpos hexceeds hok]
      exact hrest
    · rintro limit ⟨refusal, hno⟩
      exact ⟨refusal, by rw [makeRoom_of_refused hpos hexceeds hno]⟩
    · rintro limit hok ⟨refusal, hrest⟩
      refine ⟨refusal, ?_⟩
      rw [makeRoom_of_granted hpos hexceeds hok]
      exact hrest
  | case4 t b hpos hfits =>
    cases h
    exact .same hb fun limit => makeRoom_of_fits (fun _ => Bool.eq_false_iff.mpr hfits) _

theorem metered_extendArena (hb : b.reserved ≤ b.peak) (h : t.extendArena b = (.ok (), t', b')) :
    Metered b b' (fun limit => t.extendArena (b.withLimit limit) = (.ok (), t', b'.withLimit limit))
      (fun limit => ∃ refusal, (t.extendArena (b.withLimit limit)).1 =
        .error (.retryAfterSpill refusal)) := by
  rcases extendArena_cases h with ⟨hlt, -, rfl, rfl⟩ | ⟨-, -, -, _, -, herr⟩ | ⟨hge, -, hres, rfl⟩
  · exact .same hb fun limit => by rw [extendArena, if_pos hlt]
  · cases herr
  · have hfull := Nat.not_lt_of_le hge
    refine (metered_reserve hb hres).mono ?_ ?_
    · intro limit hok
      simp only [extendArena, if_neg hfull, hok]
    · rintro limit ⟨refusal, hno⟩
      refine ⟨refusal, ?_⟩
      simp only [extendArena, if_neg hfull, hno]

theorem metered_insert {slot : Nat} (hb : b.reserved ≤ b.peak)
    (h : t.insert hash b = (.ok slot, t', b')) :
    Metered b b' (fun limit => t.insert hash (b.withLimit limit) = (.ok slot, t', b'.withLimit limit))
      (fun limit => ∃ refusal, (t.insert hash (b.withLimit limit)).1 =
        .error (.retryAfterSpill refusal)) := by
  rcases insert_cases h with ⟨-, herr, -, -⟩ | ⟨-, e, -, herr⟩ | ⟨-, _, _, -, e, -, herr⟩ |
    ⟨hlt, roomy, granted, hroom, ready, hext, hslot, rfl⟩
  · cases herr
  · cases herr
  · cases herr
  · cases hslot
    have hfree := Nat.not_le_of_lt hlt
    have hmade := metered_makeRoom hb hroom
    refine hmade.bind (metered_extendArena hmade.le_peak hext) ?_ ?_ ?_
    · intro limit hok hrest
      simp only [insert, if_neg hfree, hok, hrest]
    · rintro limit ⟨refusal, hno⟩
      refine ⟨refusal, ?_⟩
      rcases hmake : t.makeRoom (b.withLimit limit) with ⟨result, t₁, b₁⟩
      rw [hmake] at hno
      cases hno
      simp only [insert, if_neg hfree, hmake]
    · rintro limit hok ⟨refusal, hrest⟩
      refine ⟨refusal, ?_⟩
      rcases hmake : roomy.extendArena (granted.withLimit limit) with ⟨result, t₁, b₁⟩
      rw [hmake] at hrest
      cases hrest
      simp only [insert, if_neg hfree, hok, hmake]

theorem metered_create {minBuckets : Nat} {loadFactor : Binary64} (hb : b.reserved ≤ b.peak)
    (h : create minBuckets loadFactor b = .ok (t, b')) :
    Metered b b'
      (fun limit => create minBuckets loadFactor (b.withLimit limit) = .ok (t, b'.withLimit limit))
      (fun limit => ∃ refusal, create minBuckets loadFactor (b.withLimit limit) =
        .error (.retryAfterSpill refusal)) := by
  obtain ⟨hres, rfl⟩ := create_eq_ok h
  refine (metered_reserveBuckets hb hres).mono ?_ ?_
  · intro limit hok
    rw [create, hok]
    rfl
  · rintro limit ⟨refusal, hno⟩
    refine ⟨refusal, ?_⟩
    rw [create, hno]
    rfl

end SlotTable

/-! ### The ledger and the store -/

theorem MatchLedger.metered_link {l l' : MatchLedger} {slot : Nat} {ref : RowRef}
    (hb : b.reserved ≤ b.peak) (h : l.link slot ref b = (.ok (), l', b')) :
    Metered b b' (fun limit => l.link slot ref (b.withLimit limit) = (.ok (), l', b'.withLimit limit))
      (fun limit => OutOfMemory (l.link slot ref (b.withLimit limit)).1) := by
  rcases link_cases h with ⟨-, herr, -, -⟩ | ⟨-, -, -, -, _, -, herr⟩ | ⟨hslot, hlt, -, rfl, rfl⟩ |
    ⟨hslot, hge, -, rfl, hres⟩
  · cases herr
  · cases herr
  · exact .same hb fun limit => by simp only [link, makeRoom, ne_eq, hslot, not_true, if_false,
      if_pos hlt]
  · have hfull := Nat.not_lt_of_le hge
    refine (metered_reserve hb hres).mono ?_ ?_
    · intro limit hok
      simp only [link, makeRoom, ne_eq, hslot, not_true, if_false, if_neg hfull, hok, extended]
    · rintro limit ⟨refusal, hno⟩
      simp only [link, makeRoom, ne_eq, hslot, not_true, if_false, if_neg hfull, hno]
      exact outOfMemory_ofRefusal .link refusal

theorem BuildStore.metered_absorb {s s' : BuildStore} {batch : Batch} {index : Nat}
    (hb : b.reserved ≤ b.peak) (h : s.absorb batch b = .ok (index, s', b')) :
    Metered b b'
      (fun limit => s.absorb batch (b.withLimit limit) = .ok (index, s', b'.withLimit limit))
      (fun limit => OutOfMemory (s.absorb batch (b.withLimit limit))) := by
  obtain ⟨hok, hindex, hres, rfl, rfl⟩ := absorb_eq_ok_iff.mp h
  refine (metered_reserve hb hres).mono ?_ ?_
  · intro limit hgrant
    exact absorb_eq_ok_iff.mpr ⟨hok, hindex, hgrant, rfl, rfl⟩
  · rintro limit ⟨refusal, hno⟩
    rw [absorb_eq hok hindex, hno]
    exact outOfMemory_ofRefusal .batch refusal

/-! ### The build phase -/

namespace Loading

variable {keys : JoinKeys} {batch : Batch} {config : Config} {probeSchema : Option Schema}
  {l l' : Loading}

/-- The same build phase under another limit. -/
def withLimit (l : Loading) (limit : Nat) : Loading := { l with budget := l.budget.withLimit limit }

theorem metered_insertRows {index row : Nat} {table table' : SlotTable}
    {ledger ledger' : MatchLedger} (hb : b.reserved ≤ b.peak)
    (h : insertRows keys batch index row table ledger b = (.ok (), table', ledger', b')) :
    Metered b b'
      (fun limit => insertRows keys batch index row table ledger (b.withLimit limit) =
        (.ok (), table', ledger', b'.withLimit limit))
      (fun limit => OutOfMemory (insertRows keys batch index row table ledger
        (b.withLimit limit)).1) := by
  fun_induction insertRows keys batch index row table ledger b with
  | case1 => cases h
  | case2 => cases h
  | case3 => cases h
  | case4 row table ledger b hrow slot table₁ b₁ hins ref hof ledger₁ b₂ hlink ih =>
    have hinserted := SlotTable.metered_insert hb hins
    have hlinked := MatchLedger.metered_link hinserted.le_peak hlink
    -- one row is inserted and linked as before, or the rows stop there
    have hone : Metered b b₂
        (fun limit => table.insert (keys.hashBuild batch row) (b.withLimit limit) =
            (.ok slot, table₁, b₁.withLimit limit) ∧
          ledger.link slot ref (b₁.withLimit limit) = (.ok (), ledger₁, b₂.withLimit limit))
        (fun limit => OutOfMemory (insertRows keys batch index row table ledger
          (b.withLimit limit)).1) := by
      refine hinserted.bind hlinked (fun limit hok hok' => ⟨hok, hok'⟩) ?_ ?_
      · rintro limit ⟨refusal, hno⟩
        rcases hrun : table.insert (keys.hashBuild batch row) (b.withLimit limit) with ⟨r, t, b⟩
        rw [hrun] at hno
        cases hno
        rw [insertRows, if_pos hrow, hrun]
        exact outOfMemory_ofRefusal .entry refusal
      · intro limit hok hno
        obtain ⟨use, requested, available, ⟨l, b⟩, hrun⟩ := hno.eq_mk
        rw [insertRows, if_pos hrow, hok]
        simp only [hof, hrun]
        exact ⟨use, requested, available, rfl⟩
    refine hone.bind (ih hlinked.le_peak h) ?_ (fun limit hno => hno) ?_
    · rintro limit ⟨hok, hok'⟩ hrest
      rw [insertRows, if_pos hrow, hok]
      simp only [hof, hok']
      exact hrest
    · rintro limit ⟨hok, hok'⟩ hrest
      rw [insertRows, if_pos hrow, hok]
      simp only [hof, hok']
      exact hrest
  | case5 row table ledger b hrow =>
    cases h
    exact .same hb fun limit => by rw [insertRows, if_neg hrow]

theorem metered_insertBatch {table : SlotTable}
    (h : l.insertBatch table keys batch = (.ok (), l')) (hb : l.budget.reserved ≤ l.budget.peak) :
    Metered l.budget l'.budget
      (fun limit => (l.withLimit limit).insertBatch table keys batch = (.ok (), l'.withLimit limit))
      (fun limit => OutOfMemory ((l.withLimit limit).insertBatch table keys batch).1) := by
  cases inserting_of_insertBatch h with
  | @stored _ _ _ _ budget₁ _ hrows habsorb =>
    have hin := metered_insertRows hb hrows
    refine hin.bind (BuildStore.metered_absorb hin.le_peak habsorb) ?_ ?_ ?_
    · intro limit hok hok'
      simp only [insertBatch, withLimit, hok, hok']
    · intro limit hno
      obtain ⟨use, requested, available, ⟨t, m, b⟩, hrun⟩ := hno.eq_mk
      simp only [insertBatch, withLimit, hrun]
      exact ⟨use, requested, available, rfl⟩
    · rintro limit hok ⟨use, requested, available, hr⟩
      simp only [insertBatch, withLimit, hok, hr]
      exact ⟨use, requested, available, rfl⟩

theorem metered_openTable {table : SlotTable}
    (h : l.openTable config probeSchema = .ok (table, keys, b'))
    (hb : l.budget.reserved ≤ l.budget.peak) :
    Metered l.budget b'
      (fun limit => (l.withLimit limit).openTable config probeSchema =
        .ok (table, keys, b'.withLimit limit))
      (fun limit => OutOfMemory ((l.withLimit limit).openTable config probeSchema)) := by
  obtain ⟨hkeys, hnew⟩ := openTable_eq_ok h
  refine (SlotTable.metered_create hb hnew).mono ?_ ?_
  · intro limit hok
    simp only [openTable, withLimit, hkeys, hok]
    rfl
  · rintro limit ⟨refusal, hno⟩
    simp only [openTable, withLimit, hkeys, hno]
    exact outOfMemory_ofRefusal .table refusal

theorem metered_accept (hb : l.budget.reserved ≤ l.budget.peak)
    (h : l.accept config probeSchema batch = (.ok (), l')) :
    Metered l.budget l'.budget
      (fun limit => (l.withLimit limit).accept config probeSchema batch = (.ok (), l'.withLimit limit))
      (fun limit => OutOfMemory ((l.withLimit limit).accept config probeSchema batch).1) := by
  cases accepting_of_accept h with
  | empty hnote hrows =>
    exact .same hb fun limit => by simp only [accept, withLimit, hnote, if_pos hrows]
  | further hnote hrows hinspect htable hinsert =>
    refine (metered_insertBatch hinsert hb).mono ?_ ?_
    · intro limit hok
      simp only [accept, withLimit, hnote, if_neg hrows, hinspect, htable]
      exact hok
    · intro limit hno
      simp only [accept, withLimit, hnote, if_neg hrows, hinspect, htable]
      exact hno
  | first hnote hrows hinspect htable hopen hinsert =>
    -- the first batch with rows opens the table before its rows go in
    have hopened := metered_openTable hopen hb
    refine hopened.bind (metered_insertBatch hinsert hopened.le_peak) ?_ ?_ ?_
    · intro limit hok hok'
      simp only [withLimit, htable] at hok
      simp only [accept, withLimit, hnote, if_neg hrows, hinspect, htable, hok]
      exact hok'
    · intro limit hno
      simp only [withLimit, htable] at hno
      obtain ⟨use, requested, available, hr⟩ := hno
      simp only [accept, withLimit, hnote, if_neg hrows, hinspect, htable, hr]
      exact ⟨use, requested, available, rfl⟩
    · intro limit hok hno
      simp only [withLimit, htable] at hok
      simp only [accept, withLimit, hnote, if_neg hrows, hinspect, htable, hok]
      exact hno

/-! ### The whole source -/

section Source

variable {σ : Type} [BatchSource σ] {source source' : σ}

theorem metered_drain (hb : l.budget.reserved ≤ l.budget.peak)
    (h : l.drain config probeSchema source = (.ok (), source', l')) :
    Metered l.budget l'.budget
      (fun limit => (l.withLimit limit).drain config probeSchema source =
        (.ok (), source', l'.withLimit limit))
      (fun limit => OutOfMemory ((l.withLimit limit).drain config probeSchema source).1) := by
  fun_induction drain config probeSchema source l with
  | case1 => cases h
  | case2 source l rest hpull =>
    cases h
    exact .same hb fun limit => by simp only [drain_eq config probeSchema source, hpull]
  | case3 => cases h
  | case4 source l batch rest hpull _ l₁ hacc ih =>
    have hone := metered_accept hb hacc
    refine hone.bind (ih hone.le_peak h) ?_ ?_ ?_
    · intro limit hok hrest
      simp only [drain_eq config probeSchema source, hpull, hok]
      exact hrest
    · intro limit hno
      obtain ⟨use, requested, available, l₂, hrun⟩ := hno.eq_mk
      simp only [drain_eq config probeSchema source, hpull, hrun]
      exact ⟨use, requested, available, rfl⟩
    · intro limit hok hrest
      simp only [drain_eq config probeSchema source, hpull, hok]
      exact hrest

theorem metered_acceptFirst {first : Option Batch} (hb : l.budget.reserved ≤ l.budget.peak)
    (h : l.acceptFirst config probeSchema first = (.ok (), l')) :
    Metered l.budget l'.budget
      (fun limit => (l.withLimit limit).acceptFirst config probeSchema first =
        (.ok (), l'.withLimit limit))
      (fun limit => OutOfMemory ((l.withLimit limit).acceptFirst config probeSchema first).1) := by
  cases first with
  | none =>
    cases h
    exact .same hb fun limit => rfl
  | some batch => exact metered_accept hb h

theorem finish_withLimit (config : Config) (declared probeSchema : Option Schema) (l : Loading)
    (limit : Nat) : (l.withLimit limit).finish config declared probeSchema =
      ((l.finish config declared probeSchema).1,
        (l.finish config declared probeSchema).2.withLimit limit) := by
  simp only [finish, withLimit]
  split <;> rfl

theorem budget_finish (config : Config) (declared probeSchema : Option Schema) (l : Loading) :
    (l.finish config declared probeSchema).2.budget = l.budget := by
  simp only [finish]
  split <;> rfl

/-- The build phase as a whole, from what was pulled in advance to the keys. -/
theorem metered_fill {first : Option Batch} {keys : JoinKeys}
    (h : l.fill config probeSchema first source = (.ok keys, source', l'))
    (hb : l.budget.reserved ≤ l.budget.peak) :
    Metered l.budget l'.budget
      (fun limit => (l.withLimit limit).fill config probeSchema first source =
        (.ok keys, source', l'.withLimit limit))
      (fun limit => OutOfMemory ((l.withLimit limit).fill config probeSchema first source).1) := by
  cases fills_of_fill h with
  | @finished _ l₁ l₂ _ _ hfirst hdrain hfinish =>
    have hone := metered_acceptFirst hb hfirst
    have hall := metered_drain hone.le_peak hdrain
    have hbudget : l'.budget = l₂.budget := by
      rw [← budget_finish config (BatchSource.schema? source') probeSchema l₂, hfinish]
    rw [hbudget]
    refine hone.bind hall ?_ ?_ ?_
    · intro limit hok hok'
      simp only [fill, hok, hok', finish_withLimit, hfinish]
    · intro limit hno
      obtain ⟨use, requested, available, l₃, hrun⟩ := hno.eq_mk
      simp only [fill, hrun]
      exact ⟨use, requested, available, rfl⟩
    · intro limit hok hno
      obtain ⟨use, requested, available, ⟨s, l₃⟩, hrun⟩ := hno.eq_mk
      simp only [fill, hok, hrun]
      exact ⟨use, requested, available, rfl⟩

/-- The build phase knows of the limit through the budget alone. -/
theorem fill_memoryLimit (config : Config) (probeSchema : Option Schema) (first : Option Batch)
    (source : σ) (l : Loading) (limit : Nat) :
    l.fill { config with memoryLimit := limit } probeSchema first source =
      l.fill config probeSchema first source := by
  have hdrain : ∀ l : Loading, l.drain { config with memoryLimit := limit } probeSchema source =
      l.drain config probeSchema source := by
    intro l
    fun_induction drain config probeSchema source l with
    | case1 source l e rest hpull => simp only [drain_eq _ probeSchema source, hpull]
    | case2 source l rest hpull => simp only [drain_eq _ probeSchema source, hpull]
    | case3 source l batch rest hpull _ e l₁ hacc =>
      have hacc' : l.accept { config with memoryLimit := limit } probeSchema batch =
        (.error e, l₁) := hacc
      simp only [drain_eq _ probeSchema source, hpull, hacc']
    | case4 source l batch rest hpull _ l₁ hacc ih =>
      have hacc' : l.accept { config with memoryLimit := limit } probeSchema batch =
        (.ok (), l₁) := hacc
      simp only [drain_eq _ probeSchema source, hpull, hacc']
      exact ih
  have hfirst : l.acceptFirst { config with memoryLimit := limit } probeSchema first =
      l.acceptFirst config probeSchema first := rfl
  simp only [fill, hfirst, hdrain]
  rfl

end Source

end Loading

end HashJoin
