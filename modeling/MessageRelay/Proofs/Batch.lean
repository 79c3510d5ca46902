import Mathlib.Data.List.Duplicate
import Mathlib.Data.List.Flatten
import Mathlib.Data.List.NodupEquivFin
import MessageRelay.Proofs.Extraction
import MessageRelay.Proofs.Run.Reports

/-!
# No key occurs twice in a batch

A batch is made by going through messages and keeping the keys that have come by. So what stops it
is the first message whose key has come by before, whatever stands behind that message and whatever
else the two messages say (`MessageRelay.firstRepeated?_eq_some_iff`). Everything else about batches
is read off that: which lists of messages make one, with which error the others are refused, and
that a receipt which is read twice spoils any batch
(`MessageRelay.Batch.exists_error_of_duplicate`).

The keys of a batch are those of the reports of every run of it, so no two reports have one key.
-/

namespace MessageRelay

/-! ### The first key that is repeated -/

/-- **The first key that is repeated** is one that has been seen, or that occurs among the keys in
front of it; and none of those is repeated. -/
theorem firstRepeated?_eq_some_iff {seen rest : List MessageKey} {k : MessageKey} :
    firstRepeated? seen rest = some k ↔
      ∃ front back, rest = front ++ k :: back ∧ firstRepeated? seen front = none ∧
        (k ∈ seen ∨ k ∈ front) := by
  induction rest generalizing seen with
  | nil => simp [firstRepeated?]
  | cons a rest ih =>
    by_cases ha : a ∈ seen
    · -- the search ends here
      have hfound : ∀ keys, firstRepeated? seen (a :: keys) = some a := fun keys => by
        rw [firstRepeated?, if_pos (List.contains_iff_mem.mpr ha)]
      rw [hfound]
      constructor
      · rintro ⟨⟩
        exact ⟨[], rest, rfl, rfl, Or.inl ha⟩
      · rintro ⟨front, back, hrest, hnone, -⟩
        cases front with
        | nil => rw [(List.cons.inj hrest).1]
        | cons b front =>
          rw [(List.cons.inj hrest).1.symm, hfound] at hnone
          exact absurd hnone (Option.some_ne_none _)
    · have hgoes : ∀ keys,
          firstRepeated? seen (a :: keys) = firstRepeated? (a :: seen) keys := fun keys => by
        rw [firstRepeated?, if_neg (mt List.contains_iff_mem.mp ha)]
      rw [hgoes, ih]
      constructor
      · rintro ⟨front, back, rfl, hnone, hk⟩
        refine ⟨a :: front, back, rfl, (hgoes front).trans hnone, ?_⟩
        rw [List.mem_cons] at hk ⊢
        tauto
      · rintro ⟨front, back, hrest, hnone, hk⟩
        cases front with
        | nil =>
          rw [(List.cons.inj hrest).1] at ha
          exact absurd (hk.resolve_right List.not_mem_nil) ha
        | cons b front =>
          obtain ⟨rfl, rfl⟩ := List.cons.inj hrest
          refine ⟨front, back, rfl, (hgoes front).symm.trans hnone, ?_⟩
          rw [List.mem_cons] at hk ⊢
          tauto

namespace Batch

variable {ms : List Message} {b : Batch} {err : ExtractionError} {e : Extractor}
  {rs : List SourceReceipt} {r : SourceReceipt}

/-! ### Messages that make a batch -/

/-- **Messages are refused with the first key that is repeated.** -/
theorem ofMessages_eq_error_iff :
    ofMessages ms = .error err ↔
      ∃ front m rest, ms = front ++ m :: rest ∧ (front.map Message.key).Nodup ∧
        m.key ∈ front.map Message.key ∧ err = .duplicateMessage m.key := by
  have hfirst : ofMessages ms = .error err ↔
      ∃ k, firstRepeated? [] (ms.map Message.key) = some k ∧ err = .duplicateMessage k := by
    unfold ofMessages
    split
    next k hk => simp [hk, eq_comm]
    next hk => simp [hk]
  rw [hfirst]
  constructor
  · rintro ⟨k, hk, rfl⟩
    obtain ⟨front, back, hms, hnone, hmem⟩ := firstRepeated?_eq_some_iff.mp hk
    obtain ⟨front, rest, rfl, rfl, hrest⟩ := List.map_eq_append_iff.mp hms
    obtain ⟨m, rest, rfl, rfl, -⟩ := List.map_eq_cons_iff.mp hrest
    exact ⟨front, m, rest, rfl, (firstRepeated?_eq_none_iff.mp hnone).2,
      hmem.resolve_left List.not_mem_nil, rfl⟩
  · rintro ⟨front, m, rest, rfl, hnodup, hmem, rfl⟩
    refine ⟨m.key, firstRepeated?_eq_some_iff.mpr ⟨front.map Message.key, rest.map Message.key,
      ?_, ?_, Or.inr hmem⟩, rfl⟩
    · rw [List.map_append, List.map_cons]
    · exact firstRepeated?_eq_none_iff.mpr ⟨fun _ _ => List.not_mem_nil, hnodup⟩

/-! ### Receipts that are read twice -/

/-- **A receipt that occurs twice spoils the batch**, if an entry of it is selected: its messages
are read twice, or they cannot be read at all. -/
theorem exists_error_of_duplicate (hr : List.Duplicate r rs) (hselected : e.selected r ≠ []) :
    ∃ err, ofReceipts e rs = .error err := by
  obtain ⟨log, hlog⟩ := List.exists_mem_of_ne_nil _ hselected
  rw [exists_ofReceipts_error_iff]
  cases hdecode : Published.decode e.explain log with
  | error source =>
    obtain ⟨hmem, hsel⟩ := Extractor.mem_selected.mp hlog
    exact .unreadable hr.mem hmem hsel hdecode
  | ok m =>
    -- the entry stands among the selected ones once for each time that the receipt occurs
    have htwice : List.Duplicate log (rs.flatMap e.selected) := by
      rw [List.duplicate_iff_sublist]
      have hboth : [log, log].Sublist (e.selected r ++ e.selected r) :=
        (List.singleton_sublist.mpr hlog).append (List.singleton_sublist.mpr hlog)
      have hall : (e.selected r ++ e.selected r).Sublist (rs.flatMap e.selected) := by
        simpa using (List.duplicate_iff_sublist.mp hr).flatMap e.selected
      exact hboth.trans hall
    obtain ⟨i, j, hlt, hi, hj⟩ := List.duplicate_iff_exists_distinct_get.mp htwice
    refine .repeated (Fin.lt_def.mp hlt) ?_ hdecode ?_ hdecode rfl
    · rw [hi]
      exact List.getElem?_eq_getElem i.isLt
    · rw [hj]
      exact List.getElem?_eq_getElem j.isLt

/-- **Batches and their keys.** Messages make a batch exactly if their keys are pairwise distinct,
and the batch holds those messages in that order. Otherwise they are refused with the key of the
first message whose key occurs in front of it. Receipts are refused if one of them that has an entry
which is selected occurs twice, whatever else there is. And the reports of a run of the batch, in
every state of its driver and so in the last one, carry the keys of the messages, in their order and
each one once. -/
theorem ofMessages_exact (ms : List Message) :
    ((∃ b, ofMessages ms = .ok b) ↔ ms.Pairwise fun a b => a.key ≠ b.key) ∧
    (∀ b, ofMessages ms = .ok b → b.messages = ms) ∧
    (∀ err, ofMessages ms = .error err ↔
      ∃ front m rest, ms = front ++ m :: rest ∧ (front.Pairwise fun a b => a.key ≠ b.key) ∧
        (∃ earlier ∈ front, earlier.key = m.key) ∧ err = .duplicateMessage m.key) ∧
    (∀ e rs r, List.Duplicate r rs → e.selected r ≠ [] → ∃ err, ofReceipts e rs = .error err) ∧
    ∀ b, ofMessages ms = .ok b →
      (∀ s : Run.State, (s.reports b.keys).map Report.key = ms.map Message.key) ∧
      ∀ c ledger t, Run.trace c ledger b = some t →
        t.reports.Pairwise fun r r' => r.key ≠ r'.key := by
  have hpairwise : ∀ ms : List Message,
      (ms.map Message.key).Nodup ↔ ms.Pairwise fun a b => a.key ≠ b.key :=
    fun ms => List.pairwise_map
  refine ⟨?made, fun b h => (ofMessages_eq_ok_iff.mp h).1, ?refused,
    fun e rs r => exists_error_of_duplicate, ?runs⟩
  case made =>
    rw [← hpairwise]
    exact exists_ofMessages_iff
  case refused =>
    intro err
    simp only [ofMessages_eq_error_iff, hpairwise, List.mem_map]
  case runs =>
    intro b h
    obtain ⟨hmessages, hnodup⟩ := ofMessages_eq_ok_iff.mp h
    have hkeys : ∀ s : Run.State, (s.reports b.keys).map Report.key = ms.map Message.key :=
      fun s => (Run.map_key_reports s b.keys).trans (congrArg (List.map Message.key) hmessages)
    refine ⟨hkeys, fun c ledger t ht => List.pairwise_map.mp ?_⟩
    obtain ⟨done, -, hreports⟩ := Run.exists_finished_of_trace ht
    rw [hreports, hkeys]
    exact hnodup

/-- Three messages of which the third one has the key of the first one, though it says something
else, are refused with that key, and a receipt that publishes a message cannot be read twice. -/
theorem ofMessages_exact_repeated :
    let other : Message := { Message.sample 1 with payload := [] }
    let r := SourceReceipt.sample default [Message.sample 1]
    ofMessages [.sample 1, .sample 2, other] = .error (.duplicateMessage (Message.sample 1).key) ∧
      List.Duplicate r [r, .sample default [.sample 2], r] ∧
      (∃ err, ofReceipts {} [r, .sample default [.sample 2], r] = .error err) ∧
      ∃ b, ofMessages [.sample 1, .sample 2] = .ok b ∧
        ∀ s : Run.State, (s.reports b.keys).map Report.key =
          [(Message.sample 1).key, (Message.sample 2).key] := by
  intro other r
  have htwice : List.Duplicate r [r, .sample default [.sample 2], r] :=
    .cons_mem (List.mem_cons_of_mem _ (List.mem_singleton_self r))
  have hentry : Published.encode (.sample 1) ∈ Extractor.selected {} r :=
    Extractor.mem_selected.mpr ⟨List.mem_singleton_self _, rfl, nofun⟩
  obtain ⟨-, -, hrefused, hreceipts, -⟩ := ofMessages_exact [.sample 1, .sample 2, other]
  obtain ⟨hmade, -, -, -, hruns⟩ := ofMessages_exact [.sample 1, .sample 2]
  obtain ⟨b, hb⟩ := hmade.mpr (by decide)
  refine ⟨(hrefused _).mpr ⟨[.sample 1, .sample 2], other, [], rfl, by decide, ?_, rfl⟩, htwice,
    hreceipts {} _ r htwice (List.ne_nil_of_mem hentry), b, hb, (hruns b hb).1⟩
  exact ⟨.sample 1, List.mem_cons_self, rfl⟩

end Batch

end MessageRelay
