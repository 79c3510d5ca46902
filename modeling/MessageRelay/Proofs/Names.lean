import MessageRelay.Proofs.Bytes
import MessageRelay.Proofs.Run.Reports
import MessageRelay.Proofs.Text.Folding

/-!
# The names of messages

A message goes by the written form of its key, in the lines of the output and where an outcome says
what it was blocked by. Nothing is lost in that form. The letter case of the sender's digits depends
on a digest of all of them, but that is of no account: whatever the digest, up to letter case the
checksummed form is the usual one (`MessageRelay.Address.map_toLower_checksummed`). All addresses
are written in equally many characters, so it is plain where the number begins, and the digits of
a number come from no other number. Hence two keys with one name are one key, even if letter case
is not looked at (`MessageRelay.MessageKey.sameLetters_text_iff`).

A name has no tab in it, so a line says where the name ends (`MessageRelay.Report.named_line`).
-/

namespace MessageRelay

/-! ### Texts up to letter case -/

theorem toNat_toUpper (c : Char) :
    c.toUpper.toNat = if 97 ≤ c.toNat ∧ c.toNat ≤ 122 then c.toNat - 32 else c.toNat := by
  have hguard : (c.val ≥ 'a'.val ∧ c.val ≤ 'z'.val) ↔ 97 ≤ c.toNat ∧ c.toNat ≤ 122 := Iff.rfl
  unfold Char.toUpper
  by_cases h : 97 ≤ c.toNat ∧ c.toNat ≤ 122
  · rw [dif_pos (hguard.mpr h), if_pos h]
    obtain ⟨hge, hle⟩ : 97 ≤ c.val.toNat ∧ c.val.toNat ≤ 122 := h
    show (c.val + ('A'.val - 'a'.val)).toNat = c.val.toNat - 32
    rw [UInt32.toNat_add]
    show (c.val.toNat + 4294967264) % 4294967296 = c.val.toNat - 32
    omega
  · rw [dif_neg (fun h' => h (hguard.mp h')), if_neg h]

theorem toLower_toUpper (c : Char) : c.toUpper.toLower = c.toLower := by
  refine Char.toNat_inj.mp ?_
  rw [toNat_toLower, toNat_toLower, toNat_toUpper]
  grind

namespace Text

variable {s t : String}

theorem SameLetters.refl (s : String) : SameLetters s s := rfl

/-- What two texts have in common in front may be left out. -/
theorem sameLetters_append_left_iff {front : String} :
    SameLetters (front ++ s) (front ++ t) ↔ SameLetters s t := by
  rw [SameLetters, SameLetters, String.toList_append, String.toList_append, List.map_append,
    List.map_append, List.append_cancel_left_eq]

/-- Texts that are the same up to letter case begin alike. -/
theorem SameLetters.head? (h : SameLetters s t) :
    s.toList.head?.map Char.toLower = t.toList.head?.map Char.toLower := by
  rw [← List.head?_map, h, List.head?_map]

theorem head?_append {front : String} {c : Char} (h : front.toList.head? = some c)
    (back : String) : (front ++ back).toList.head? = some c := by
  rw [String.toList_append, List.head?_append, h]
  rfl

end Text

open Text (SameLetters)

/-! ### Addresses -/

theorem Bytes.length_hexDigits (bs : Bytes) : bs.hexDigits.length = 2 * bs.length :=
  length_of_ofHexDigits? (ofHexDigits?_hexDigits bs)

/-- Different byte strings are written differently. -/
theorem Bytes.hexDigits_inj {bs bs' : Bytes} (h : bs.hexDigits = bs'.hexDigits) : bs = bs' := by
  have hread := ofHexDigits?_hexDigits bs
  rw [h, ofHexDigits?_hexDigits] at hread
  exact (Option.some.inj hread).symm

namespace Address

/-- **The checksum is in the letter case alone.** -/
theorem map_toLower_checksummed (a : Address) :
    a.checksummed.toList.map Char.toLower = '0' :: 'x' :: a.bytes.hexDigits := by
  rw [checksummed]
  generalize keccak256 (a.bytes.hexDigits.map fun c => UInt8.ofNat c.toNat) = digest
  have henough : a.bytes.hexDigits.length ≤ digest.bytes.hexDigits.length := by
    rw [Bytes.length_hexDigits, Bytes.length_hexDigits, a.length_bytes, digest.length_bytes]
    decide
  have hcase : ∀ d h : Char, (if '8' ≤ h then d.toUpper else d).toLower = d.toLower := by
    intro d h
    split
    · exact toLower_toUpper d
    · rfl
  have hdigits : (List.zipWith (fun d h => if '8' ≤ h then d.toUpper else d) a.bytes.hexDigits
      digest.bytes.hexDigits).map Char.toLower = a.bytes.hexDigits := by
    simp only [List.map_zipWith, hcase]
    rw [← List.map_uncurry_zip_eq_zipWith]
    calc ((a.bytes.hexDigits.zip digest.bytes.hexDigits).map
          (Function.uncurry fun d _ => d.toLower))
        = ((a.bytes.hexDigits.zip digest.bytes.hexDigits).map Prod.fst).map Char.toLower := by
          rw [List.map_map]
          rfl
      _ = a.bytes.hexDigits.map Char.toLower := by rw [List.map_fst_zip henough]
      _ = a.bytes.hexDigits := Bytes.map_toLower_hexDigits a.bytes
  rw [String.toList_ofList, List.map_cons, List.map_cons, hdigits]
  rfl

end Address

/-! ### Numbers -/

theorem map_toLower_toString (n : Nat) :
    (toString n).toList.map Char.toLower = Nat.toDigits 10 n := by
  rw [Nat.toString_eq_ofList_toDigits, String.toList_ofList]
  refine (List.map_congr_left fun c hc => ?_).trans (List.map_id _)
  have hdigit := Nat.isDigit_of_mem_toDigits (by decide) (by decide) hc
  refine Char.toNat_inj.mp ?_
  have hle : c.toNat ≤ 57 := (Char.isDigit_iff_toNat.mp hdigit).2
  rw [toNat_toLower, if_neg (by omega)]
  rfl

theorem toDigits_inj {m n : Nat} (h : Nat.toDigits 10 m = Nat.toDigits 10 n) : m = n := by
  have hvalue := congrArg (fun digits => Nat.ofDigitChars 10 digits 0) h
  simpa [Nat.ofDigitChars_toDigits] using hvalue

/-! ### Keys -/

namespace MessageKey

/-- A name in lower case. -/
theorem map_toLower_text (k : MessageKey) :
    k.text.toList.map Char.toLower =
      '0' :: 'x' :: (k.sender.bytes.hexDigits ++ '/' :: Nat.toDigits 10 k.sequence.toNat) := by
  have hslash : "/".toList.map Char.toLower = ['/'] := by decide
  rw [text, String.toList_append, String.toList_append, List.map_append, List.map_append,
    Address.map_toLower_checksummed, map_toLower_toString, hslash]
  simp only [List.cons_append, List.nil_append, List.append_assoc]

/-- **Two keys with one name are one key**, even up to letter case. -/
theorem sameLetters_text_iff {a b : MessageKey} : SameLetters a.text b.text ↔ a = b := by
  refine ⟨fun h => ?_, fun h => h ▸ SameLetters.refl _⟩
  rw [Text.SameLetters, map_toLower_text, map_toLower_text, List.cons.injEq, List.cons.injEq] at h
  have hlength : a.sender.bytes.hexDigits.length = b.sender.bytes.hexDigits.length := by
    rw [Bytes.length_hexDigits, Bytes.length_hexDigits, a.sender.length_bytes,
      b.sender.length_bytes]
  obtain ⟨hsender, hsequence⟩ := List.append_inj h.2.2 hlength
  have hsender : a.sender = b.sender := Octets.ext_bytes (Bytes.hexDigits_inj hsender)
  have hsequence : a.sequence = b.sequence :=
    UInt64.toNat_inj.mp (toDigits_inj (List.cons.inj hsequence).2)
  cases a
  cases b
  cases hsender
  cases hsequence
  rfl

/-- There is no tab in a name. -/
theorem ne_tab_of_mem_text {k : MessageKey} {c : Char} (h : c ∈ k.text.toList) : c ≠ '\t' := by
  rintro rfl
  have hlower : '\t' ∈ k.text.toList.map Char.toLower :=
    List.mem_map.mpr ⟨'\t', h, by decide⟩
  rw [map_toLower_text, List.mem_cons, List.mem_cons, List.mem_append, List.mem_cons] at hlower
  have hhex : ∀ n < 16, '\t' ≠ Nat.digitChar n := by decide
  rcases hlower with h | h | h | h | h
  · exact absurd h (by decide)
  · exact absurd h (by decide)
  · obtain ⟨n, hn, hdigit⟩ := Bytes.exists_digit_of_mem h
    exact hhex n hn hdigit
  · exact absurd h (by decide)
  · exact absurd (Nat.isDigit_of_mem_toDigits (by decide) (by decide) h) (by decide)

end MessageKey

/-! ### Names in the output -/

/-- The name that a line begins with: what stands in front of its first tab. -/
def Report.named (line : String) : String :=
  String.ofList (line.toList.takeWhile (· != '\t'))

/-- **A report's line begins with the name of its message.** -/
theorem Report.named_line (r : Report) : named r.line = r.key.text := by
  have hname : ∀ c ∈ r.key.text.toList, (c != '\t') = true := fun c hc =>
    bne_iff_ne.mpr (MessageKey.ne_tab_of_mem_text hc)
  have htab : "\t".toList = ['\t'] := by decide
  rw [named, line, String.toList_append, String.toList_append, htab, List.append_assoc,
    List.takeWhile_append_of_pos hname]
  simp

namespace Outcome

/-- The first letter of an outcome in words. -/
def initial : Outcome → Char
  | relayed _ | relayFailed _ => 'r'
  | finalityTimeout => 'f'
  | pollFailed _ => 'p'
  | aborted _ => 'a'

theorem head?_text (o : Outcome) : o.text.toList.head? = some o.initial := by
  cases o with
  | relayed tx => exact Text.head?_append (c := 'r') (by decide) tx.toHex
  | finalityTimeout => decide
  | pollFailed reason => exact Text.head?_append (c := 'p') (by decide) reason
  | relayFailed reason => exact Text.head?_append (c := 'r') (by decide) reason
  | aborted blockedBy => exact Text.head?_append (c := 'a') (by decide) blockedBy.text

/-- What is blocked by a message says so by its name, and no other outcome reads like that. -/
theorem sameLetters_aborted_iff {o : Outcome} {k : MessageKey} :
    SameLetters o.text (aborted k).text ↔ o = aborted k := by
  refine ⟨fun h => ?_, fun h => h ▸ SameLetters.refl _⟩
  -- the first letter tells abortions from other outcomes
  have hinitial : o.initial.toLower = 'a' := by
    have hhead := h.head?
    rw [head?_text, head?_text] at hhead
    exact Option.some.inj hhead
  cases o with
  | relayed | finalityTimeout | pollFailed | relayFailed => simp [initial] at hinitial
  | aborted blockedBy =>
    exact congrArg aborted (MessageKey.sameLetters_text_iff.mp
      (Text.sameLetters_append_left_iff.mp h))

end Outcome

namespace Run

variable {c : RunConfig} {ledger : Ledger} {batch : Batch} {done : List Completion} {s : State}

/-- What is reported as blocked is blocked by a message of the batch. -/
theorem Finished.mem_keys_of_aborted (h : Finished c ledger batch done s)
    (hhalted : s.halted = none) {r : Report} (hr : r ∈ s.reports batch.keys) {k : MessageKey}
    (hout : r.outcome = .aborted k) :
    k ∈ batch.keys := by
  have hlength := h.length_settled hhalted
  obtain ⟨-, handed, hfrom, ⟨hown, -⟩ | ⟨-, before, failure, hown, -, -, hsettled⟩⟩ :=
    h.settled_cases hhalted
  · exact absurd hout (forall_outcome_of_map_eq (fun o => o ≠ .aborted k)
      (map_outcome_reports hlength)
      (fun st hst => hown.outcome_ne_aborted h.arrivals hfrom st hst k) r hr)
  · obtain ⟨front, blocker, behind, hreports, hfront, hblocker, hbehind⟩ :=
      reports_of_failure hown hlength hsettled
    have hne := fun st hst => hown.outcome_ne_aborted h.arrivals hfrom st hst k
    have hkeys : blocker.key ∈ batch.keys := by
      rw [← map_key_reports s batch.keys, hreports]
      exact List.mem_map_of_mem (List.mem_append_right _ List.mem_cons_self)
    rw [hreports, List.mem_append, List.mem_cons] at hr
    rcases hr with hr | rfl | hr
    · exact absurd hout (forall_outcome_of_map_eq (fun o => o ≠ .aborted k) hfront
        (fun st hst => hne st (List.mem_append_left _ hst)) r hr)
    · rw [hblocker] at hout
      exact absurd hout (hne failure (List.mem_append_right _ (List.mem_singleton_self _)))
    · rw [hbehind r hr] at hout
      exact Outcome.aborted.inj hout ▸ hkeys

end Run

/-- **Names identify messages.** Two keys have the same name, even up to the case of ASCII letters,
only if they are equal. So the lines of the reports of any run begin with the names of the messages,
in their order, and no two of them with one name; and the text of an outcome that is blocked by a
message is, up to letter case, that of no other outcome, and names exactly one message of the
batch. -/
theorem MessageKey.names_identify :
    (∀ a b : MessageKey, SameLetters a.text b.text ↔ a = b) ∧
    (∀ (o : Outcome) (k : MessageKey),
      SameLetters o.text ("aborted, blocked by " ++ k.text) ↔ o = .aborted k) ∧
    ∀ (c : RunConfig) (ledger : Ledger) (batch : Batch) (done : List Completion) (s : Run.State),
      Run.Finished c ledger batch done s → s.halted = none →
        (s.reports batch.keys).map (fun r => Report.named r.line) =
          batch.messages.map (fun m => m.key.text) ∧
        (s.reports batch.keys).Pairwise
          (fun r r' => ¬ SameLetters (Report.named r.line) (Report.named r'.line)) ∧
        ∀ r ∈ s.reports batch.keys, ∀ k, r.outcome = .aborted k →
          ∃! m, m ∈ batch.messages ∧
            SameLetters r.outcome.text ("aborted, blocked by " ++ m.key.text) := by
  refine ⟨fun a b => sameLetters_text_iff, fun o k => Outcome.sameLetters_aborted_iff, ?_⟩
  intro c ledger batch done s h hhalted
  have hkeys : (s.reports batch.keys).map Report.key = batch.messages.map Message.key :=
    Run.map_key_reports s batch.keys
  simp only [Report.named_line]
  refine ⟨?names, ?lines, fun r hr k hout => ?blocker⟩
  case names =>
    have hnames := congrArg (List.map MessageKey.text) hkeys
    rwa [List.map_map, List.map_map] at hnames
  case lines =>
    have hnodup : ((s.reports batch.keys).map Report.key).Nodup := hkeys ▸ batch.nodup_keys
    exact (List.pairwise_map.mp hnodup).imp fun hne h => hne (sameLetters_text_iff.mp h)
  case blocker =>
    obtain ⟨m, hm, hkey⟩ := List.mem_map.mp (h.mem_keys_of_aborted hhalted hr hout)
    refine ⟨m, ⟨hm, ?_⟩, fun m' hm' => ?_⟩
    · rw [hout, ← hkey]
      exact SameLetters.refl _
    · have hsame : r.outcome = .aborted m'.key := Outcome.sameLetters_aborted_iff.mp hm'.2
      have heq : m'.key = m.key := by
        rw [hkey]
        exact Outcome.aborted.inj (hsame.symm.trans hout)
      exact List.inj_on_of_nodup_map batch.nodup_keys hm'.1 hm heq

/-- Of three messages the first one is relayed and the second one is lost. Their lines begin with
three names, and what is said of the third one names the second one and no other. -/
theorem MessageKey.names_identify_three :
    let c : RunConfig := { retry := .disabled }
    let ledger := Ledger.prompt fun _ => successStatus
    let s := Run.finish c Run.Batch.three.keys (Run.relayOn c ledger) Run.threeArrivals
    Run.Finished c ledger Run.Batch.three Run.threeArrivals s ∧ s.halted = none ∧
      (s.reports Run.Batch.three.keys).map (fun r => Report.named r.line) =
        [(Message.sample 1).key.text, (Message.sample 2).key.text, (Message.sample 3).key.text] ∧
      ¬ SameLetters (Message.sample 1).key.text (Message.sample 2).key.text ∧
      ∃ r ∈ s.reports Run.Batch.three.keys, r.outcome = .aborted (Message.sample 2).key ∧
        ∃! m, m ∈ Run.Batch.three.messages ∧
          SameLetters r.outcome.text ("aborted, blocked by " ++ m.key.text) := by
  intro c ledger s
  have hfinished : Run.Finished c ledger Run.Batch.three Run.threeArrivals s :=
    Run.finished_three .abortRemaining fun _ => successStatus
  have hhalted : s.halted = none := Option.isNone_iff_eq_none.mp Run.outcomes_three.1
  have hblocked : .aborted (Message.sample 2).key ∈
      (s.reports Run.Batch.three.keys).map Report.outcome := by
    rw [Run.map_outcome_reports (hfinished.length_settled hhalted), Run.outcomes_three.2]
    decide
  obtain ⟨r, hr, hout⟩ := List.mem_map.mp hblocked
  obtain ⟨hkeys, -, hruns⟩ := names_identify
  obtain ⟨hnames, -, hblocker⟩ := hruns c ledger Run.Batch.three _ s hfinished hhalted
  refine ⟨hfinished, hhalted, hnames, fun h => ?_, r, hr, hout, hblocker r hr _ hout⟩
  exact absurd ((hkeys _ _).mp h) (by decide)

end MessageRelay
