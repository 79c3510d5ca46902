import MessageRelay.Program
import MessageRelay.Proofs.Json.Records

/-!
# The interchange forms are read back

The writer and the reader of each type of `MessageRelay.Interchange` fit
(`MessageRelay.Json.Fits`): a key, a message, a log entry, a receipt, an outcome and a report are
taken back from the document that is written for them, whatever stands in them. Reasons are any
texts, numbers use their full range, byte strings may be empty, and the place of a log entry and the
detail of an outcome may be absent.

So the texts come back too (`MessageRelay.Interchange.texts_read_back`). What the program prints
for a list of reports is one of them, and two lists are never printed alike.
-/

namespace MessageRelay

open Json (Fits RoundTrips parse isPlain_ofMembers isPlain_array fields?_ofMembers mapM_map_of_read
  nat?_ofNat bytes?_toHex octets?_toHex)

/-! ### Keys and messages -/

theorem MessageKey.fits : Fits toJson ofJson? where
  plain k := isPlain_ofMembers (by simp)
  read k := by
    have hfields : k.toJson.fields? ["sender", "sequence"] =
        some [some (.string k.sender.toHex), some (.ofNat k.sequence.toNat)] :=
      fields?_ofMembers (by simp) _
    simp [ofJson?, hfields, octets?_toHex, nat?_ofNat k.sequence.toNat_lt_size]

theorem Message.fits : Fits toJson ofJson? where
  plain m := isPlain_ofMembers (by simp)
  read m := by
    have hfields : m.toJson.fields?
          ["sender", "sequence", "nonce", "topic", "payload", "consistency_level"] =
        some [some (.string m.sender.toHex), some (.ofNat m.sequence.toNat),
          some (.ofNat m.nonce.toNat), some (.ofNat m.topic.toNat), some (.string m.payload.toHex),
          some (.ofNat m.consistencyLevel.toNat)] :=
      fields?_ofMembers (by simp) _
    simp [ofJson?, hfields, octets?_toHex, bytes?_toHex, nat?_ofNat m.sequence.toNat_lt_size,
      nat?_ofNat m.nonce.toNat_lt_size, nat?_ofNat m.topic.toNat_lt_size,
      nat?_ofNat m.consistencyLevel.toNat_lt_size]

/-! ### Receipts -/

/-- The place of a log entry is taken back, also if there is none. -/
theorem Log.optional?_index (index : Option UInt64) :
    Json.optional? (Json.nat? UInt64.size)
        (some (Json.ofOption (fun i => Json.ofNat i.toNat) index)) =
      some (index.map UInt64.toNat) := by
  cases index with
  | none => rfl
  | some i =>
    show (Json.nat? UInt64.size (.ofNat i.toNat)).map some = some (some i.toNat)
    rw [nat?_ofNat i.toNat_lt_size, Option.map_some]

theorem Log.fits : Fits toJson ofJson? where
  plain log := by
    have htopics : (Json.array (log.topics.map fun t => .string t.toHex)).IsPlain :=
      isPlain_array (by simp)
    have hindex : (Json.ofOption (fun i => Json.ofNat i.toNat) log.index).IsPlain := by
      cases log.index <;> simp [Json.ofOption]
    exact isPlain_ofMembers (by simp [htopics, hindex])
  read log := by
    have hfields : log.toJson.fields? ["address", "topics", "data", "log_index"] =
        some [some (.string log.address.toHex),
          some (.array (log.topics.map fun t => .string t.toHex)), some (.string log.data.toHex),
          some (Json.ofOption (fun i => .ofNat i.toNat) log.index)] :=
      fields?_ofMembers (by simp) _
    have htopics : (log.topics.map fun t => Json.string t.toHex).mapM (Json.octets? 32) =
        some log.topics := mapM_map_of_read octets?_toHex log.topics
    simp [ofJson?, hfields, Json.elements?, octets?_toHex, htopics, bytes?_toHex, optional?_index,
      Function.comp_def]

theorem SourceReceipt.fits : Fits toJson ofJson? where
  plain r := by
    have hlogs : (Json.array (r.logs.map Log.toJson)).IsPlain := Log.fits.list.plain r.logs
    exact isPlain_ofMembers (by simp [hlogs])
  read r := by
    have hfields : r.toJson.fields? ["transaction_hash", "status", "logs"] =
        some [some (.string r.transaction.toHex), some (.ofNat r.status.toNat),
          some (.array (r.logs.map Log.toJson))] :=
      fields?_ofMembers (by simp) _
    have hlogs : (r.logs.map Log.toJson).mapM Log.ofJson? = some r.logs :=
      mapM_map_of_read Log.fits.read r.logs
    simp [ofJson?, hfields, Json.elements?, octets?_toHex, nat?_ofNat r.status.toNat_lt_size, hlogs]

theorem DestinationReceipt.fits : Fits toJson ofJson? where
  plain r := isPlain_ofMembers (by simp)
  read r := by
    have hfields : r.toJson.fields? ["transaction_id", "status"] =
        some [some (.string r.transaction.toHex), some (.ofNat r.status.toNat)] :=
      fields?_ofMembers (by simp) _
    simp [ofJson?, hfields, octets?_toHex, nat?_ofNat r.status.toNat_lt_size]

/-! ### Outcomes and reports -/

namespace Outcome

/-- What stands beside the label is plain. -/
theorem isPlain_detail (o : Outcome) : ∀ d ∈ o.detail?, d.IsPlain := by
  cases o with
  | relayed | pollFailed | relayFailed => rintro _ ⟨⟩; trivial
  | finalityTimeout => nofun
  | aborted blockedBy =>
    rintro _ ⟨⟩
    exact isPlain_ofMembers (by simp [MessageKey.fits.plain blockedBy])

theorem ofParts?_aborted {ms : List (Option String × Json)} {key : Json}
    (h : (Json.object ms).fields? ["blocked_by"] = some [some key]) :
    ofParts? "aborted" (some (.object ms)) = (MessageKey.ofJson? key).map aborted := by
  show ((Json.object ms).fields? ["blocked_by"]).bind _ = _
  rw [h]
  rfl

/-- **The label tells the kinds of outcomes apart**, and the detail says the rest. -/
theorem ofParts?_label_detail (o : Outcome) : ofParts? o.label o.detail? = some o := by
  cases o with
  | relayed tx =>
    show (Json.octets? 32 (.string tx.toHex)).map relayed = some (relayed tx)
    rw [octets?_toHex, Option.map_some]
  | finalityTimeout => rfl
  | pollFailed | relayFailed => rfl
  | aborted blockedBy =>
    have hfields : (Json.ofMembers [("blocked_by", blockedBy.toJson)]).fields? ["blocked_by"] =
        some [some blockedBy.toJson] := fields?_ofMembers (by simp) _
    exact (ofParts?_aborted hfields).trans (congrArg _ (MessageKey.fits.read blockedBy))

theorem fits : Fits toJson ofJson? where
  plain o := by
    refine isPlain_ofMembers (List.forall_mem_cons.mpr ⟨Json.isPlain_string _, fun m hm => ?_⟩)
    obtain ⟨d, hd, rfl⟩ := Option.mem_map.mp (Option.mem_toList.mp hm)
    exact isPlain_detail o d hd
  read o := by
    have hfields : o.toJson.fields? ["outcome", "detail"] =
        some [some (.string o.label), o.detail?] := by
      refine (fields?_ofMembers ?_ _).trans ?_
      · cases o.detail? <;> simp
      · cases o.detail? <;> rfl
    -- the label stands in front, so it is no matter whether the detail can be kept
    obtain ⟨rest, hrest⟩ : ∃ rest, o.toJson = .object ((some "outcome", .string o.label) :: rest) :=
      ⟨_, rfl⟩
    rw [hrest] at hfields ⊢
    simp [ofJson?, hfields, label?, ofParts?_label_detail]

end Outcome

theorem Report.fits : Fits toJson ofJson? where
  plain r := isPlain_ofMembers (by simp [MessageKey.fits.plain r.key, Outcome.fits.plain r.outcome])
  read r := by
    have hfields : r.toJson.fields? ["key", "outcome"] =
        some [some r.key.toJson, some r.outcome.toJson] := fields?_ofMembers (by simp) _
    simp [ofJson?, hfields, MessageKey.fits.read r.key, Outcome.fits.read r.outcome]

/-! ### Lists of reports, as they are printed -/

/-- Reads a list of reports. -/
def Report.listOfJson? (j : Json) : Option (List Report) := do
  (← j.elements?).mapM ofJson?

theorem Report.fits_list :
    Fits (fun reports => .array (reports.map toJson)) listOfJson? := Report.fits.list

namespace Interchange

/-- What is printed for a list of reports is read as that list. -/
theorem parse_reportText (reports : List Report) :
    parse Report.listOfJson? (Program.reportText true reports) = some reports := by
  have hgap : Json.IsGap "\n".toList := by
    intro c hc
    rw [List.mem_singleton.mp hc]
    rfl
  exact Report.fits_list.parse_writePretty reports "\n" hgap

/-- **All values come back from their texts**: the seven types, and lists of reports as they are
printed. So different lists are printed differently. -/
theorem texts_read_back :
    RoundTrips Message.toJson Message.ofJson? ∧
    RoundTrips MessageKey.toJson MessageKey.ofJson? ∧
    RoundTrips Log.toJson Log.ofJson? ∧
    RoundTrips SourceReceipt.toJson SourceReceipt.ofJson? ∧
    RoundTrips DestinationReceipt.toJson DestinationReceipt.ofJson? ∧
    RoundTrips Outcome.toJson Outcome.ofJson? ∧
    RoundTrips Report.toJson Report.ofJson? ∧
    (∀ reports, parse Report.listOfJson? (Program.reportText true reports) = some reports) ∧
    Function.Injective (Program.reportText true) := by
  refine ⟨Message.fits.roundTrips, MessageKey.fits.roundTrips, Log.fits.roundTrips,
    SourceReceipt.fits.roundTrips, DestinationReceipt.fits.roundTrips, Outcome.fits.roundTrips,
    Report.fits.roundTrips, parse_reportText, fun reports others htext => ?_⟩
  have hothers := parse_reportText others
  rw [← htext, parse_reportText reports] at hothers
  exact Option.some.inj hothers

end Interchange

end MessageRelay
