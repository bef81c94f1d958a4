import HashJoin.Proofs.BuildStore.Serving
import HashJoin.Proofs.Column.Refusing
import HashJoin.Proofs.Output.Gathering
import HashJoin.Proofs.Probe.Admissions
import HashJoin.Proofs.Source.Measured

/-!
# A bound on the output

A probe bounds the rows that it can still make: every probe row that is left can match every build row, or
is kept without a match, and every build row can be left over. What is written comes off this bound, row by
row. So an output batch lowers the bound by its rows at least, and there are no more output batches than the
bound says.

## Main definitions

* `ChainPosition.rowsLeft`, `Cursor.rowsLeft` — the bound for a row, and for the rows of a batch.
* `RowWriter.Bounded` — a writer whose columns are no longer than it says.
* `Emission.Spends` — what is written comes off a bound.

## Main results

* `rowCount_le_of_finish` — a batch has no more rows than were written.
* `spends_probeRows`, `spends_probeInput`, `spends_sweep` — the rows of a batch, all probe rows, and the
  build rows that are left over.
* `rowsLeft_nextOutput` — **an output batch lowers the bound by its rows.**
-/

namespace HashJoin

/-! ### The rows of a writer -/

namespace Column.Builder

/-- A row of another column makes a builder longer by one row at most. -/
theorem length_pushFrom_le (row : Nat) (b : Builder) (source : Column) :
    (pushFrom row b source).2.length ≤ b.length + 1 := by
  cases b with
  | fixed s v cells =>
    simp only [pushFrom]
    split
    · exact Nat.le_succ _
    · split
      · split
        · exact Nat.le_of_eq (Validity.length_push _ _)
        · exact Nat.le_succ _
      · exact Nat.le_succ _
  | bytes s v kind slices =>
    simp only [pushFrom]
    split
    · exact Nat.le_succ _
    · split
      · split
        · split
          · exact Nat.le_of_eq (Validity.length_push _ _)
          · exact Nat.le_succ _
        · exact Nat.le_succ _
      · exact Nat.le_succ _
  | record s v children =>
    simp only [pushFrom]
    split
    · exact Nat.le_succ _
    · split
      · split
        · exact Nat.le_succ _
        · split
          · exact Nat.le_of_eq (Validity.length_push _ _)
          · exact Nat.le_succ _
      · exact Nat.le_succ _

variable {n : Nat}

theorem lengths_pushFromAll (row : Nat) {bs : List Builder} (h : ∀ b ∈ bs, b.length ≤ n)
    (columns : List Column) : ∀ b ∈ (pushFromAll row bs columns).2, b.length ≤ n + 1 := by
  induction bs generalizing columns with
  | nil =>
    cases columns with
    | nil | cons => nofun
  | cons b bs ih =>
    obtain ⟨hb, hbs⟩ := List.forall_mem_cons.mp h
    have hold : ∀ b ∈ bs, b.length ≤ n + 1 := fun b hb => Nat.le_succ_of_le (hbs b hb)
    cases columns with
    | nil => exact List.forall_mem_cons.mpr ⟨Nat.le_succ_of_le hb, hold⟩
    | cons c columns =>
      have hone := length_pushFrom_le row b c
      rw [pushFromAll]
      split
      · next hpush =>
        rw [hpush] at hone
        exact List.forall_mem_cons.mpr ⟨Nat.le_trans hone (Nat.succ_le_succ hb), ih hbs columns⟩
      · next hpush =>
        rw [hpush] at hone
        exact List.forall_mem_cons.mpr ⟨Nat.le_trans hone (Nat.succ_le_succ hb), hold⟩

theorem length_pushBlank (valid : Bool) (b : Builder) : (pushBlank valid b).length = b.length + 1 := by
  cases b <;> exact Validity.length_push _ _

theorem lengths_pushAbsentAll {bs : List Builder} (h : ∀ b ∈ bs, b.length ≤ n) :
    ∀ b ∈ pushAbsentAll bs, b.length ≤ n + 1 := by
  induction bs with
  | nil => nofun
  | cons b bs ih =>
    obtain ⟨hb, hbs⟩ := List.forall_mem_cons.mp h
    rw [pushAbsentAll]
    refine List.forall_mem_cons.mpr ⟨?_, ih hbs⟩
    rw [length_pushBlank]
    exact Nat.succ_le_succ hb

theorem lengths_ofSpecs (specs : List ColumnSpec) : ∀ b ∈ ofSpecs specs, b.length = 0 := by
  induction specs with
  | nil => nofun
  | cons spec specs ih => exact List.forall_mem_cons.mpr ⟨length_ofSpec spec, ih⟩

theorem length_toColumn (b : Builder) : (toColumn b).validity.length = b.length := by
  cases b <;> rfl

end Column.Builder

namespace RowWriter

open Column Column.Builder

/-- The columns of a writer are no longer than it has rows. -/
def Bounded (w : RowWriter) : Prop := ∀ b ∈ w.build ++ w.probe, b.length ≤ w.rows

variable {w w' : RowWriter} {batch : Batch}

theorem bounded_ofSchema (output : OutputSchema) : (ofSchema output).Bounded := by
  intro b hb
  rcases List.mem_append.mp hb with hb | hb
  · exact Nat.le_of_eq (lengths_ofSpecs _ b hb)
  · exact Nat.le_of_eq (lengths_ofSpecs _ b hb)

theorem lengths_writeSide {n : Nat} {builders : List Column.Builder}
    (h : ∀ b ∈ builders, b.length ≤ n) (source : Option BatchRow) :
    ∀ b ∈ (writeSide builders source).2, b.length ≤ n + 1 := by
  cases source with
  | some r => exact lengths_pushFromAll r.2 h r.1.columns
  | none => exact lengths_pushAbsentAll h

/-- A row that is written counts one. -/
theorem rows_append {build probe : Option BatchRow} (h : w.append build probe = (.ok (), w')) :
    w'.rows = w.rows + 1 ∧ (w.Bounded → w'.Bounded) := by
  obtain ⟨builds, probes, rows⟩ := w
  rcases hbuild : writeSide builds build with ⟨_ | ⟨⟨⟩⟩, builds'⟩
  · simp [append, hbuild] at h
  rcases hprobe : writeSide probes probe with ⟨_ | ⟨⟨⟩⟩, probes'⟩
  · simp [append, hbuild, hprobe] at h
  simp only [append, hbuild, hprobe, Prod.mk.injEq, true_and] at h
  subst h
  refine ⟨rfl, fun hw b hb => ?_⟩
  have hbuilds := lengths_writeSide (fun b hb => hw b (List.mem_append_left _ hb)) build
  have hprobes := lengths_writeSide (fun b hb => hw b (List.mem_append_right _ hb)) probe
  rw [hbuild] at hbuilds
  rw [hprobe] at hprobes
  rcases List.mem_append.mp hb with hb | hb
  · exact hbuilds b hb
  · exact hprobes b hb

/-- A batch has no more rows than were written. -/
theorem rowCount_le_of_finish (hw : w.Bounded) (h : w.finish = .ok batch) :
    batch.rowCount ≤ w.rows := by
  rw [finish, finishAll_eq] at h
  change Batch.ofColumns (toColumns (w.build ++ w.probe)) = .ok batch at h
  simp only [Batch.ofColumns] at h
  split at h
  · cases h
  · next hequal =>
    cases h
    cases hcolumns : w.build ++ w.probe with
    | nil => exact Nat.zero_le _
    -- the first column has the length of the batch, and its rows are those of the builder
    | cons b bs =>
      rw [hcolumns, toColumns] at hequal
      have hfirst := List.find?_eq_none.mp hequal (toColumn b) List.mem_cons_self
      simp only [List.head?_cons, Option.map_some, Option.getD_some, bne_self_eq_false, Bool.false_or,
        bne_iff_ne, ne_eq, Decidable.not_not] at hfirst
      have hlength := hw b (by rw [hcolumns]; exact List.mem_cons_self)
      rw [← length_toColumn, hfirst] at hlength
      exact hlength

end RowWriter

/-! ### What is written -/

namespace Emission

/-- What is written comes off a bound, and the columns stay no longer than the writer says. -/
structure Spends (out out' : Emission) (bound bound' : Nat) : Prop where
  /-- The rows. -/
  rows : out'.writer.rows + bound' ≤ out.writer.rows + bound
  /-- The columns. -/
  bounded : out.writer.Bounded → out'.writer.Bounded

variable {out out' out'' : Emission} {bound bound' bound'' : Nat}

theorem Spends.of_le (h : bound' ≤ bound) : out.Spends out bound bound' :=
  ⟨Nat.add_le_add_left h _, id⟩

theorem Spends.trans (h : out.Spends out' bound bound') (h' : out'.Spends out'' bound' bound'') :
    out.Spends out'' bound bound'' :=
  ⟨Nat.le_trans h'.rows h.rows, fun hout => h'.bounded (h.bounded hout)⟩

/-- A bound may be given with what comes later. -/
theorem Spends.add (h : out.Spends out' bound bound') (later : Nat) :
    out.Spends out' (bound + later) (bound' + later) := by
  have hrows := h.rows
  exact ⟨by omega, h.bounded⟩

theorem Spends.mono {total : Nat} (h : out.Spends out' bound bound') (hle : bound ≤ total)
    (hle' : bound'' ≤ bound') : out.Spends out' total bound'' := by
  have hrows := h.rows
  exact ⟨by omega, h.bounded⟩

theorem spends_write {build probe : Option BatchRow} (h : out.write build probe = (.ok (), out'))
    (hle : bound' + 1 ≤ bound) : out.Spends out' bound bound' := by
  obtain ⟨writer, ledger⟩ := out
  rcases happend : writer.append build probe with ⟨_ | ⟨⟨⟩⟩, writer'⟩
  · simp [write, happend] at h
  · simp only [write, happend, Prod.mk.injEq, true_and] at h
    subst h
    obtain ⟨hrows, hbounded⟩ := RowWriter.rows_append happend
    refine ⟨?_, hbounded⟩
    show writer'.rows + bound' ≤ writer.rows + bound
    omega

theorem spends_mark (h : out.Spends out' bound bound') (slot : Nat) :
    out.Spends (out'.mark slot) bound bound' := ⟨h.rows, h.bounded⟩

end Emission

/-! ### The rows of a batch -/

/-- The most rows that the row of a cursor can still make: one for each slot that its chain has not
passed, and one without a match. -/
def ChainPosition.rowsLeft (buildRows : Nat) : ChainPosition → Nat
  | unstarted => buildRows + 1
  | slot s => buildRows - s + 1
  | exhausted => 1

namespace Cursor

/-- The most rows that the rows of a batch from the cursor on can still make. -/
def rowsLeft (c : Cursor) (rowCount buildRows : Nat) : Nat :=
  if c.row < rowCount then
    c.chain.rowsLeft buildRows + (rowCount - c.row - 1) * (buildRows + 1)
  else 0

variable {c : Cursor} {rowCount buildRows : Nat}

theorem rowsLeft_of_lt (h : c.row < rowCount) : c.rowsLeft rowCount buildRows =
    c.chain.rowsLeft buildRows + (rowCount - c.row - 1) * (buildRows + 1) := if_pos h

theorem rowsLeft_nextRow (h : c.row < rowCount) :
    c.nextRow.rowsLeft rowCount buildRows = (rowCount - c.row - 1) * (buildRows + 1) := by
  by_cases hmore : c.row + 1 < rowCount
  · rw [rowsLeft_of_lt hmore]
    have hrest : rowCount - c.row - 1 = rowCount - (c.row + 1) - 1 + 1 := by omega
    rw [hrest, Nat.add_mul, Nat.one_mul, Nat.add_comm]
    rfl
  · have hrest : rowCount - c.row - 1 = 0 := by omega
    rw [hrest, Nat.zero_mul]
    exact if_neg hmore

/-- The row of a cursor can make one row more than those behind it. -/
theorem rowsLeft_nextRow_lt (h : c.row < rowCount) :
    c.nextRow.rowsLeft rowCount buildRows + 1 ≤ c.rowsLeft rowCount buildRows := by
  have hone : 1 ≤ c.chain.rowsLeft buildRows := by
    cases c.chain <;> exact Nat.le_add_left _ _
  rw [rowsLeft_nextRow h, rowsLeft_of_lt h]
  omega

end Cursor

namespace ProbeFrame

variable {f : ProbeFrame} {out out' : Emission} {buildRows : Nat} {cursor cursor' : Cursor}

theorem lt_length_of_slotRow {store : BuildStore} {ledger : MatchLedger} {slot : Nat} {r : BatchRow}
    (h : store.slotRow ledger slot = .ok r) : slot < ledger.length := by
  obtain ⟨ref, href, -⟩ := BuildStore.slotRow_eq_ok h
  exact (Array.getElem?_eq_some_iff.mp href).1

/-- A candidate that is compared has a slot. -/
theorem lt_of_tryCandidate {row slot : Nat} {found : Bool}
    (h : f.tryCandidate row slot out = (.ok found, out')) : slot < out.ledger.length := by
  simp only [tryCandidate] at h
  split at h
  · cases h
  · next hrow => exact lt_length_of_slotRow hrow

theorem spends_tryCandidate {row slot bound bound' : Nat} {found : Bool}
    (h : f.tryCandidate row slot out = (.ok found, out')) (hle : bound' + 1 ≤ bound) :
    out.Spends out' bound bound' := by
  simp only [tryCandidate] at h
  split at h
  · cases h
  · split at h
    · split at h
      · cases h
      · next hwrite =>
        cases h
        exact Emission.spends_mark (Emission.spends_write hwrite hle) slot
    · cases h
      exact .of_le (Nat.le_of_succ_le hle)

/-- The walk along a chain passes one slot for each row that it writes. -/
theorem spends_walkChain {table : SlotTable} {row slot : Nat} {hash : UInt32} {m m' : Bool}
    {chain : ChainPosition} (hlinked : out.ledger.length ≤ buildRows)
    (h : f.walkChain table row hash slot m out = (.ok (), chain, m', out')) :
    out.Spends out' (buildRows - slot + 1) (chain.rowsLeft buildRows) := by
  fun_induction walkChain f table row hash slot m out with
  | case1 slot m out =>
    cases h
    exact .of_le (Nat.le_refl _)
  | case2 => cases h
  | case3 slot m out _ isMatch out₁ htry =>
    cases h
    have hslot := lt_of_tryCandidate htry
    apply spends_tryCandidate htry
    show 1 + 1 ≤ _
    omega
  | case4 slot m out _ isMatch out₁ htry later hnext hlater ih =>
    have hslot := lt_of_tryCandidate htry
    have hsame : out₁.ledger.length = out.ledger.length := (marked_tryCandidate htry).length_eq
    refine (spends_tryCandidate htry ?_).trans (ih (by rw [hsame]; exact hlinked) h)
    omega

/-- A row without a match is written as such, dropped, or waits. -/
theorem spends_completeRow (hrow : cursor.row < f.batch.rowCount)
    (h : f.completeRow cursor out = (.ok (), cursor', out')) :
    out.Spends out' (cursor.rowsLeft f.batch.rowCount buildRows)
      (cursor'.rowsLeft f.batch.rowCount buildRows) := by
  have hless : cursor.nextRow.rowsLeft f.batch.rowCount buildRows + 1 ≤
      cursor.rowsLeft f.batch.rowCount buildRows := Cursor.rowsLeft_nextRow_lt hrow
  simp only [completeRow] at h
  split at h
  · split at h
    · cases h
      exact .of_le (Nat.le_refl _)
    · split at h
      · cases h
      · next hwrite =>
        cases h
        exact Emission.spends_write hwrite hless
  · cases h
    exact .of_le (Nat.le_of_succ_le hless)

/-- The place within a chain counts as the bound of its row. -/
theorem spends_atRow {chain : ChainPosition} {m : Bool} (hrow : cursor.row < f.batch.rowCount)
    (h : out.Spends out' (cursor.chain.rowsLeft buildRows) (chain.rowsLeft buildRows)) :
    out.Spends out' (cursor.rowsLeft f.batch.rowCount buildRows)
      (Cursor.rowsLeft { cursor with chain := chain, rowMatched := m } f.batch.rowCount buildRows) := by
  rw [Cursor.rowsLeft_of_lt hrow, Cursor.rowsLeft_of_lt (by exact hrow)]
  exact h.add _

theorem spends_continueRow (hlinked : out.ledger.length ≤ buildRows)
    (hrow : cursor.row < f.batch.rowCount)
    (h : f.continueRow cursor out = (.ok (), cursor', out')) :
    out.Spends out' (cursor.rowsLeft f.batch.rowCount buildRows)
      (cursor'.rowsLeft f.batch.rowCount buildRows) := by
  unfold continueRow at h
  split at h
  · exact spends_completeRow hrow h
  · exact spends_completeRow hrow h
  · next slot hchain =>
    split at h
    · split at h
      · cases h
        exact .of_le (Nat.le_refl _)
      · cases h
    · split at h
      · cases h
      -- the row is completed in the same go
      · next m out₁ hwalk =>
        have hwalked := spends_walkChain hlinked hwalk
        have hrow' : ({ cursor with chain := .exhausted, rowMatched := m } : Cursor).row <
          f.batch.rowCount := hrow
        refine (spends_atRow hrow ?_).trans (spends_completeRow hrow' h)
        rw [hchain]
        exact hwalked
      · next hwalk =>
        cases h
        apply spends_atRow hrow
        rw [hchain]
        exact spends_walkChain hlinked hwalk

/-- A row that is looked up has no more matches than there are slots. -/
theorem rowsLeft_beginRow (f : ProbeFrame) (cursor : Cursor) (rowCount : Nat) :
    (f.beginRow cursor).row = cursor.row ∧
      (f.beginRow cursor).rowsLeft rowCount buildRows ≤ cursor.rowsLeft rowCount buildRows := by
  unfold beginRow
  split
  · next hchain =>
    rcases f.lookUp cursor.row with ⟨hash, chain⟩
    refine ⟨rfl, ?_⟩
    by_cases hrow : cursor.row < rowCount
    · rw [Cursor.rowsLeft_of_lt hrow, Cursor.rowsLeft_of_lt (by exact hrow), hchain]
      apply Nat.add_le_add_right
      cases chain with
      | unstarted => exact Nat.le_refl _
      | slot s =>
        show buildRows - s + 1 ≤ buildRows + 1
        omega
      | exhausted => exact Nat.le_add_left _ _
    · rw [Cursor.rowsLeft, if_neg (by exact hrow)]
      exact Nat.zero_le _
  · exact ⟨rfl, Nat.le_refl _⟩
  · exact ⟨rfl, Nat.le_refl _⟩

theorem spends_probeRow (hlinked : out.ledger.length ≤ buildRows)
    (hrow : cursor.row < f.batch.rowCount)
    (h : f.probeRow cursor out = (.ok (), cursor', out')) :
    out.Spends out' (cursor.rowsLeft f.batch.rowCount buildRows)
      (cursor'.rowsLeft f.batch.rowCount buildRows) := by
  obtain ⟨hsame, hless⟩ := rowsLeft_beginRow f cursor f.batch.rowCount
  exact (spends_continueRow hlinked (by rw [hsame]; exact hrow) h).mono hless (Nat.le_refl _)

/-- The rows of a batch make no more rows than the cursor says. -/
theorem spends_probeRows (hlinked : out.ledger.length ≤ buildRows)
    (h : f.probeRows cursor out = (.ok (), cursor', out')) :
    out.Spends out' (cursor.rowsLeft f.batch.rowCount buildRows)
      (cursor'.rowsLeft f.batch.rowCount buildRows) := by
  fun_induction probeRows f cursor out with
  | case1 => cases h
  | case2 cursor out hmore reached out₁ hrow _ ih =>
    simp only [Bool.and_eq_true, decide_eq_true_eq] at hmore
    have hsame := (marked_probeRow hrow).length_eq
    exact (spends_probeRow hlinked hmore.1 hrow).trans (ih (by rw [hsame]; exact hlinked) h)
  | case3 cursor out hmore reached out₁ hrow _ =>
    cases h
    simp only [Bool.and_eq_true, decide_eq_true_eq] at hmore
    exact spends_probeRow hlinked hmore.1 hrow
  | case4 =>
    cases h
    exact .of_le (Nat.le_refl _)

end ProbeFrame

/-! ### The supply -/

namespace Supply

open BatchSource

variable {σ : Type} [BatchSource σ] {s s' : Supply} {source source' : σ} {first : Option Batch}

/-- A bound on the rows of the batches that the supply still gives. -/
def rowsLeft (s : Supply) (source : σ) : Nat := rowsOf s.pending + BatchSource.rowsLeft source

/-- A batch comes from the source, or has been pulled before. -/
theorem rowsLeft_fetch (hsource : Measured source)
    (h : s.fetch source = (.ok first, s', source')) :
    Measured source' ∧ s'.rowsLeft source' + rowsOf first ≤ s.rowsLeft source := by
  unfold fetch at h
  split at h
  · next batch hpending =>
    cases h
    refine ⟨hsource, ?_⟩
    rw [rowsLeft, rowsLeft, hpending]
    exact Nat.le_of_eq (by rw [Nat.add_comm]; simp [rowsOf])
  · split at h
    · cases h
      exact ⟨hsource, Nat.le_refl _⟩
    · split at h
      · cases h
      · next hpull =>
        cases h
        obtain ⟨hmeasured, hrows⟩ := measured_of_pull hsource hpull
        exact ⟨hmeasured, Nat.add_le_add_left (hrows none rfl) _⟩
      · next batch _ hpull =>
        cases h
        obtain ⟨hmeasured, hrows⟩ := measured_of_pull hsource hpull
        refine ⟨hmeasured, ?_⟩
        have hbatch := hrows (some batch) rfl
        unfold rowsLeft
        omega

theorem rowsLeft_nextBatch {metrics metrics' : Metrics} (hsource : Measured source)
    (h : s.nextBatch source metrics = (.ok first, s', source', metrics')) :
    Measured source' ∧ s'.rowsLeft source' + rowsOf first ≤ s.rowsLeft source := by
  fun_induction s.nextBatch source metrics with
  | case1 => cases h
  | case2 s source s₁ source₁ hfetch =>
    cases h
    exact rowsLeft_fetch hsource hfetch
  | case3 s source batch rest source₁ hfetch _ hempty ih =>
    obtain ⟨hmeasured, hless⟩ := rowsLeft_fetch hsource hfetch
    obtain ⟨hmeasured', hless'⟩ := ih hmeasured h
    exact ⟨hmeasured', Nat.le_trans hless' (Nat.le_of_add_right_le hless)⟩
  | case4 => cases h
  | case5 s source batch rest source₁ hfetch _ hrows admitted hinspect =>
    cases h
    obtain ⟨hmeasured, hless⟩ := rowsLeft_fetch hsource hfetch
    refine ⟨hmeasured, ?_⟩
    rw [rowsLeft, pending_of_inspect hinspect]
    exact hless

end Supply

/-! ### Output batches -/

namespace Probe

open BatchSource

variable {σ : Type} [BatchSource σ] {table : Option SlotTable} {store : BuildStore} {p q : Probe}
  {source source' : σ} {metrics metrics' : Metrics} {out out' : Emission} {buildRows : Nat}

theorem rowsLeft_of_probing (h : p.cursor.phase = .probing) (source : σ) (buildRows : Nat) :
    p.rowsLeft (BatchSource.rowsLeft source) buildRows = p.currentRowsLeft buildRows +
      p.supply.rowsLeft source * (buildRows + 1) + buildRows := by
  rw [Probe.rowsLeft, h]
  rfl

theorem spends_probeCurrent (hlinked : out.ledger.length ≤ buildRows)
    (h : probeCurrent table store p out = (.ok (), q, out')) :
    out.Spends out' (p.currentRowsLeft buildRows) (q.currentRowsLeft buildRows) := by
  obtain ⟨plan, supply, current, cursor⟩ := p
  cases current with
  | none =>
    cases h
    exact .of_le (Nat.le_refl _)
  | some batch =>
    rcases hrows : ProbeFrame.probeRows ⟨plan, table, store, batch⟩ cursor out with ⟨result, c, out₁⟩
    simp only [probeCurrent, hrows, Prod.mk.injEq] at h
    obtain ⟨rfl, rfl, rfl⟩ := h
    exact ProbeFrame.spends_probeRows hlinked hrows

/-- A batch that is entered can match every build row with every row. -/
theorem currentRowsLeft_enterBatch (plan : ProbePlan) (supply : Supply) (batch : Batch) (cursor : Cursor)
    (buildRows : Nat) : currentRowsLeft ⟨plan, supply, some batch, cursor.enterBatch⟩ buildRows =
      batch.rowCount * (buildRows + 1) := by
  show cursor.enterBatch.rowsLeft batch.rowCount buildRows = _
  cases hrows : batch.rowCount with
  | zero => rw [Nat.zero_mul]; rfl
  | succ n =>
    rw [Cursor.rowsLeft_of_lt (Nat.succ_pos n), Nat.add_mul, Nat.one_mul, Nat.add_comm]
    rfl

/-- The stage of the probe rows makes no more rows than the probe says. -/
theorem spends_probeInput (hsource : Measured source) (hlinked : out.ledger.length ≤ buildRows)
    (hphase : p.cursor.phase = .probing)
    (h : p.probeInput table store source metrics out = (.ok (), q, source', metrics', out')) :
    Measured source' ∧ out.Spends out' (p.rowsLeft (BatchSource.rowsLeft source) buildRows)
      (q.rowsLeft (BatchSource.rowsLeft source') buildRows) := by
  have hworked : ∀ {p p₁ : Probe} {source : σ} {out out₁ : Emission}, p.cursor.phase = .probing →
      out.ledger.length ≤ buildRows → probeCurrent table store p out = (.ok (), p₁, out₁) →
      p₁.cursor.phase = .probing ∧ out.Spends out₁ (p.rowsLeft (BatchSource.rowsLeft source) buildRows)
        (p₁.rowsLeft (BatchSource.rowsLeft source) buildRows) := by
    intro p p₁ source out out₁ hphase hlinked hwork
    have hphase₁ := (phase_probeCurrent hwork).trans hphase
    refine ⟨hphase₁, ?_⟩
    rw [rowsLeft_of_probing hphase, rowsLeft_of_probing hphase₁, supply_of_probeCurrent hwork]
    exact ((spends_probeCurrent hlinked hwork).add _).add _
  fun_induction probeInput table store p source metrics out with
  | case1 => cases h
  | case2 p source metrics out p₁ out₁ hwork _ =>
    cases h
    exact ⟨hsource, (hworked hphase hlinked hwork).2⟩
  | case3 => cases h
  -- the probe rows are done with, and no more build rows can be left over than there are
  | case4 p source metrics out p₁ out₁ hwork _ supply source₁ metrics₁ hfetch cursor =>
    cases h
    obtain ⟨hphase₁, hspends⟩ := hworked hphase hlinked hwork
    obtain ⟨hmeasured, -⟩ := Supply.rowsLeft_nextBatch hsource hfetch
    refine ⟨hmeasured, hspends.mono (Nat.le_refl _) ?_⟩
    rw [rowsLeft_of_probing hphase₁]
    have hafter : Probe.rowsLeft ⟨p₁.plan, supply, none, { p₁.cursor with phase := p₁.afterInput }⟩
        (BatchSource.rowsLeft source') buildRows ≤ buildRows := by
      unfold Probe.rowsLeft afterInput
      cases p₁.plan.joinType.keepsBuild with
      | true => exact Nat.sub_le _ _
      | false => exact Nat.zero_le _
    exact Nat.le_trans hafter (Nat.le_add_left _ _)
  | case5 p source metrics out p₁ out₁ hwork _ batch supply source₁ metrics₁ hfetch _ next ih =>
    obtain ⟨hphase₁, hspends⟩ := hworked hphase hlinked hwork
    obtain ⟨hmeasured, hless⟩ := Supply.rowsLeft_nextBatch hsource hfetch
    have hsame : out₁.ledger.length = out.ledger.length := (marked_probeCurrent hwork).length_eq
    have hnext : next.cursor.phase = .probing := hphase₁
    obtain ⟨hmeasured', hrest⟩ := ih hmeasured (by rw [hsame]; exact hlinked) hnext h
    refine ⟨hmeasured', (hspends.mono (Nat.le_refl _) ?_).trans hrest⟩
    rw [rowsLeft_of_probing hphase₁, rowsLeft_of_probing hnext, currentRowsLeft_enterBatch]
    have hbound := Nat.mul_le_mul_right (buildRows + 1) hless
    rw [Nat.add_mul] at hbound
    change supply.rowsLeft source₁ * (buildRows + 1) + batch.rowCount * (buildRows + 1) ≤ _ at hbound
    show batch.rowCount * (buildRows + 1) + supply.rowsLeft source₁ * (buildRows + 1) + buildRows ≤ _
    omega

omit [BatchSource σ] in
/-- The stage of the build rows that are left over passes a slot for each row that it writes. -/
theorem spends_sweep {ledger : MatchLedger} {batchRows slot : Nat} {writer writer' : RowWriter}
    {phase : Phase} (hlinked : ledger.length ≤ buildRows) (sourceRows : Nat)
    (h : sweep store ledger batchRows slot writer = (.ok (), phase, writer')) :
    Emission.Spends ⟨writer, ledger⟩ ⟨writer', ledger⟩ (buildRows - slot)
      (Probe.rowsLeft { p with cursor := { p.cursor with phase := phase } } sourceRows buildRows) := by
  fun_induction sweep store ledger batchRows slot writer with
  | case1 slot writer =>
    cases h
    exact .of_le (Nat.le_refl _)
  | case2 slot writer =>
    cases h
    exact .of_le (Nat.zero_le _)
  | case3 => cases h
  | case4 => cases h
  | case5 slot writer _ free hfound hbounds r hrow writer₁ happend ih =>
    have hwrite : Emission.write ⟨writer, ledger⟩ (some r) none = (.ok (), ⟨writer₁, ledger⟩) := by
      simp only [Emission.write, happend]
    refine (Emission.spends_write hwrite ?_).trans (ih h)
    omega

theorem spends_probeStage (hsource : Measured source) (hlinked : out.ledger.length ≤ buildRows)
    (h : p.probeStage table store source metrics out = (.ok (), q, source', metrics', out')) :
    Measured source' ∧ out.Spends out' (p.rowsLeft (BatchSource.rowsLeft source) buildRows)
      (q.rowsLeft (BatchSource.rowsLeft source') buildRows) := by
  unfold probeStage at h
  split at h
  · next hphase => exact spends_probeInput hsource hlinked hphase h
  · cases h
    exact ⟨hsource, .of_le (Nat.le_refl _)⟩
  · cases h
    exact ⟨hsource, .of_le (Nat.le_refl _)⟩

theorem spends_fill (hsource : Measured source) (hlinked : out.ledger.length ≤ buildRows)
    (h : p.fill table store source metrics out = (.ok (), q, source', metrics', out')) :
    Measured source' ∧ out.Spends out' (p.rowsLeft (BatchSource.rowsLeft source) buildRows)
      (q.rowsLeft (BatchSource.rowsLeft source') buildRows) := by
  simp only [fill] at h
  rcases hstage : p.probeStage table store source metrics out with
    ⟨_ | ⟨⟨⟩⟩, p₁, source₁, metrics₁, out₁⟩
  · rw [hstage] at h
    cases h
  rw [hstage] at h
  obtain ⟨hmeasured, hspends⟩ := spends_probeStage hsource hlinked hstage
  have hsame : out₁.ledger.length = out.ledger.length := (marked_probeStage hstage).length_eq
  split at h
  · next slot _ hphase =>
    rcases hsweep : sweep store out₁.ledger p₁.plan.batchRows slot out₁.writer with
      ⟨_ | ⟨⟨⟩⟩, phase, writer⟩
    · simp [hsweep] at h
    simp only [hsweep, Prod.mk.injEq, true_and] at h
    obtain ⟨rfl, rfl, rfl, rfl⟩ := h
    refine ⟨hmeasured, hspends.trans ?_⟩
    have hbound : p₁.rowsLeft (BatchSource.rowsLeft source₁) buildRows = buildRows - slot := by
      rw [Probe.rowsLeft, hphase]
    rw [hbound]
    exact spends_sweep (by rw [hsame]; exact hlinked) _ hsweep
  · cases h
    exact ⟨hmeasured, hspends⟩

/-- **An output batch lowers the bound by its rows**, and by one at least. The source stays measured. -/
theorem rowsLeft_nextOutput {ledger ledger' : MatchLedger} {batch : Batch} (hsource : Measured source)
    (hlinked : ledger.length ≤ buildRows)
    (h : p.nextOutput table store ledger source metrics =
      (.ok (some batch), q, ledger', source', metrics')) :
    Measured source' ∧ q.rowsLeft (BatchSource.rowsLeft source') buildRows <
        p.rowsLeft (BatchSource.rowsLeft source) buildRows ∧
      q.rowsLeft (BatchSource.rowsLeft source') buildRows + batch.rowCount ≤
        p.rowsLeft (BatchSource.rowsLeft source) buildRows := by
  simp only [nextOutput] at h
  split at h
  · cases h
  · split at h
    · cases h
    · next q' source₁ metrics₁ out hfill =>
      obtain ⟨hmeasured, hspends⟩ := spends_fill hsource hlinked hfill
      simp only [Prod.mk.injEq] at h
      obtain ⟨hcollect, rfl, -, rfl, -⟩ := h
      have hrows : out.writer.rows + q'.rowsLeft (BatchSource.rowsLeft source₁) buildRows ≤
          0 + p.rowsLeft (BatchSource.rowsLeft source) buildRows := hspends.rows
      have hbounded := hspends.bounded (RowWriter.bounded_ofSchema _)
      unfold collect at hcollect
      split at hcollect
      · cases hcollect
      · next hsome =>
        split at hcollect
        · cases hcollect
        · next hfinish =>
          cases hcollect
          have hcount := RowWriter.rowCount_le_of_finish hbounded hfinish
          exact ⟨hmeasured, by omega, by omega⟩

end Probe
end HashJoin
