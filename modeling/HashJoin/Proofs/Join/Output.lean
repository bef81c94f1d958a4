import HashJoin.Proofs.Join.Start

/-!
# The output of a join

Two scripts that can be joined make an operator show the nested-loop join of their rows, whatever
the kind of join, the conditions and the sizes: row by row in this order, cut into full output
batches of which only the last may be smaller, and then the end for good. How the streams are cut
into batches, the delays between them, and the buckets of the table leave no trace.

## Main results

* `shows_nested_loop` — **pulling an operator shows the nested-loop join.**
-/

namespace HashJoin

namespace Operator

variable {config : Config} {probe build : Script} {keys : JoinKeys} {op : Operator Script Script}

/-- **Pulling an operator shows the nested-loop join.** Take a configuration that can be run and two
scripts of batches and delays whose batches can be joined. If the first pull does not fail for want
of memory, and the texts and bytes of each output batch fit into its columns, then pulls show the
rows of the nested loop in order, in as many batches as full ones make with the last one perhaps
smaller, and from then on always the end. -/
theorem shows_nested_loop (hnew : create? config probe build = .ok op)
    (hprobe : probe.Peaceful) (hbuild : build.Peaceful)
    (hjoin : Joinable config probe.stream build.stream probe.schema build.schema keys)
    (hmemory : ∀ use requested available,
      op.next.2.failure ≠ some (.outOfMemory use requested available))
    (hpayload : ∀ i, PayloadsFit
      (((joinedRows config probe.stream build.stream).drop (i * config.batchRows)).take
        config.batchRows)) :
    let rows := joinedRows config probe.stream build.stream
    let output := outputOf config probe.stream build.stream probe.schema build.schema
    ∃ batches : List Batch,
      batches.length = (rows.length + config.batchRows - 1) / config.batchRows ∧
      batches.flatMap Batch.rows = rows.map output.rowOf ∧
      (∀ i batch, batches[i]? = some batch → Probe.Shows output batch
        ((rows.drop (i * config.batchRows)).take config.batchRows)) ∧
      ∀ n, op.shown (batches.length + n) =
        shownBatches false batches ++ List.replicate n (.ended, none) := by
  intro rows output
  obtain ⟨hvalid, rfl⟩ := create?_eq_ok_iff.mp hnew
  have hpos := Config.batchRows_pos hvalid
  obtain ⟨first, next, final, rest, hopens⟩ := Script.opens_of_peaceful hprobe .probe
  obtain ⟨buildFirst, buildNext, buildFinal, buildRest, hopens'⟩ :=
    Script.opens_of_peaceful hbuild .build
  have hempty : (ofSources config probe build).side = .empty := rfl
  rcases start_of_joinable hempty rfl hopens hopens' hjoin with
    hrefused | ⟨op', hstart, hcurrent, hend⟩
  -- the first pull would have failed for want of memory
  · obtain ⟨use, requested, available, op₁, hrun⟩ := hrefused.eq_mk
    refine absurd ?_ (hmemory use requested available)
    rw [next_of_failed_start rfl hrun]
    exact failure_tearDown _
  · have hstage : op'.stage = .done ∨ ∃ p, op'.stage = .probing p := by
      rcases hend with ⟨hdone, -⟩ | ⟨-, ⟨-, ⟨p, -, hp, -⟩, -⟩, -⟩
      · exact .inl hdone
      · exact .inr ⟨p, hp⟩
    -- the first pull shows the first output batch at once
    have hsame : ∀ n, shown n (ofSources config probe build) = shown n op' :=
      shown_of_start rfl hstart hcurrent hstage
    simp only [hsame]
    rcases hend with ⟨hdone, hnil⟩ | ⟨hannounced, ⟨j, howing, hsound, hcolumns, hsize⟩, -⟩
    -- there are no build rows, and the kind of join keeps no probe row without a match
    · have hnil : rows = [] := hnil
      rw [hnil]
      refine ⟨[], ?_, rfl, nofun, ?_⟩
      · exact (Nat.div_eq_of_lt (by rw [List.length_nil]; omega)).symm
      · intro n
        rw [List.length_nil, Nat.zero_add, shown_of_done hdone hcurrent]
        rfl
    -- the probe owes all rows of the join, and pulls show what it owes
    · have hsize : j.plan.batchRows = config.batchRows := hsize
      have hshown := shown_of_owing (by rw [hsize]; exact hpos) howing hsound
        (by rw [hsize]; exact hpayload) fun hne => by
          rw [hcolumns]
          exact hjoin.joining.fields_ne_nil (Config.conditions_ne_nil hvalid) hne
      rw [hsize, hcolumns, hannounced] at hshown
      exact hshown

/-- A full join of two rows with two rows, one of them NULL, in output batches of two rows: one pair
matches, and each side has a row without a match. -/
theorem shows_nested_loop_full :
    let column (cells : List Bool) (values : Array Int) : Column :=
      .fixed (.scalar "k" (.int .bits64) true) (.ofList cells) ⟨.ints .bits64 values, 32⟩
    let one : Batch := ⟨2, 2, [column [true, false] #[7, 0]], none⟩
    let other : Batch := ⟨2, 2, [column [true, true] #[7, 9]], none⟩
    let config : Config :=
      { Config.ofConditions .full [⟨"k", "k", .equals⟩] with minBuckets := 1, batchRows := 2 }
    let probe : Script := .ofSteps "probe" [.notYet, .batch one] none
    let build : Script := .ofSteps "build" [.batch other, .notYet] none
    ∃ op batches, create? config probe build = .ok op ∧ batches.length = 2 ∧
      batches.flatMap Batch.rows ==
        [[.integer 7, .integer 7], [.null, .null], [.integer 9, .null]] ∧
      op.shown 4 = shownBatches false batches ++ List.replicate 2 (.ended, none) := by
  intro column one other config probe build
  have hvalid : config.fault? = none := Option.isNone_iff_eq_none.mp (by decide +kernel)
  have hnew : create? config probe build = .ok (ofSources config probe build) :=
    create?_eq_ok_iff.mpr ⟨hvalid, rfl⟩
  have hone : one.WellFormed := ⟨rfl, ⟨⟨by decide +kernel, nofun⟩, rfl, rfl⟩, trivial⟩
  have hother : other.WellFormed := ⟨rfl, ⟨⟨by decide +kernel, nofun⟩, rfl, rfl⟩, trivial⟩
  have hjoin : Joinable config probe.stream build.stream probe.schema build.schema
      ⟨[.equals], [⟨0, .integer⟩], [⟨0, .integer⟩]⟩ := by
    refine ⟨?_, ?_, ?_, ?_, ?_, ?_, ?_⟩
    · intro b hb
      obtain rfl := List.mem_singleton.mp hb
      exact hone
    · intro b hb
      obtain rfl := List.mem_singleton.mp hb
      exact hother
    · intro b hb
      obtain rfl := List.mem_singleton.mp hb
      decide
    · intro b hb _
      obtain rfl := List.mem_singleton.mp hb
      rfl
    · intro b hb c hc _ _
      rw [List.mem_singleton.mp hb, List.mem_singleton.mp hc]
    · decide
    · rfl
  have hmemory : (ofSources config probe build).next.2.failure = none :=
    Option.isNone_iff_eq_none.mp (by decide +kernel)
  have hfixed : ((joinedRows config probe.stream build.stream).all JoinedRow.isFixed) = true := by
    decide +kernel
  have hpayload : ∀ i, PayloadsFit
      (((joinedRows config probe.stream build.stream).drop (i * config.batchRows)).take
        config.batchRows) := by
    intro i
    refine payloadsFit_of_isFixed fun r hr => List.all_eq_true.mp hfixed r ?_
    exact List.mem_of_mem_drop (List.mem_of_mem_take hr)
  obtain ⟨batches, hlength, hrows, -, hshown⟩ := shows_nested_loop hnew ⟨rfl, rfl⟩ ⟨rfl, rfl⟩ hjoin
    (fun _ _ _ => by rw [hmemory]; nofun) hpayload
  have hcount : (joinedRows config probe.stream build.stream).length = 3 := by decide +kernel
  have hlength : batches.length = 2 := by
    rw [hlength, hcount]
    decide
  refine ⟨_, batches, hnew, hlength, ?_, ?_⟩
  · rw [hrows]
    decide +kernel
  · rw [← hshown, hlength]

end Operator
end HashJoin
