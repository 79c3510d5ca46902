import MessageRelay.Config
import MessageRelay.Proofs.Url

/-!
# Secrets stay out of the written form

Two configurations that differ in nothing but secrets have the same written form
(`MessageRelay.Config.text_hides_secrets`). The secrets are the private keys, and of the nodes'
addresses all that is not scheme, host or port. So whoever reads the written form learns of a key at
most whether it is there, and of an address at most where it leads.

What configurations have in common is said by blanking out keys and addresses
(`MessageRelay.Config.blanked`), so that a setting that is added one day counts as no secret until
it is blanked out as well.
-/

namespace MessageRelay

namespace Config

variable {c d : Config}

/-- No secret at all. -/
def blank : Redacted String := ⟨""⟩

/-- The configuration without what its keys and its addresses say. Whether there is a key is still
seen. -/
def blanked (c : Config) : Config :=
  { c with
    source := { c.source with
      rpcUrl := "", privateKey := c.source.privateKey.map fun _ => blank }
    destination := { c.destination with rpcUrl := "", privateKey := blank } }

/-- **Two configurations that differ in secrets at most**: each address leads to the same place,
each key is present in both or in neither, and all else is equal. -/
structure SameButSecrets (c d : Config) : Prop where
  blanked : c.blanked = d.blanked
  sourceUrl : Url.SameSite c.source.rpcUrl d.source.rpcUrl
  destinationUrl : Url.SameSite c.destination.rpcUrl d.destination.rpcUrl

/-- Of a key that may be absent only its absence is seen. -/
theorem optional_text_map (key : Option (Redacted String)) :
    optional Redacted.text (key.map fun _ => blank) = optional Redacted.text key := by
  cases key with
  | none => rfl
  | some secret => rfl

/-- **The written form** depends on what is left when secrets are blanked out, and on what is shown
of the addresses. -/
theorem text_congr (h : c.blanked = d.blanked)
    (hsource : Url.redact c.source.rpcUrl = Url.redact d.source.rpcUrl)
    (hdestination : Url.redact c.destination.rpcUrl = Url.redact d.destination.rpcUrl) :
    c.text = d.text := by
  have hsourceBus : c.source.messageBus = d.source.messageBus :=
    congrArg (fun b => b.source.messageBus) h
  have hsourceKey : optional Redacted.text c.source.privateKey =
      optional Redacted.text d.source.privateKey := by
    rw [← optional_text_map c.source.privateKey, ← optional_text_map d.source.privateKey]
    exact congrArg (fun b => optional Redacted.text b.source.privateKey) h
  have hbus : c.destination.messageBus = d.destination.messageBus :=
    congrArg (fun b => b.destination.messageBus) h
  have hmessenger : c.destination.messenger = d.destination.messenger :=
    congrArg (fun b => b.destination.messenger) h
  have hkey : c.destination.privateKey.text = d.destination.privateKey.text := rfl
  have hgas : c.destination.gasLimit = d.destination.gasLimit :=
    congrArg (fun b => b.destination.gasLimit) h
  have hfee : c.destination.maxFeePerGas = d.destination.maxFeePerGas :=
    congrArg (fun b => b.destination.maxFeePerGas) h
  have hrelay : c.relay = d.relay := congrArg (fun b => b.relay) h
  rw [text, text, hsource, hsourceBus, hsourceKey, hdestination, hbus, hmessenger, hkey, hgas, hfee,
    hrelay]

/-- **Secrets do not reach the written form**: configurations that differ in secrets at most are
written alike. -/
theorem text_hides_secrets (h : SameButSecrets c d) : c.text = d.text :=
  text_congr h.blanked h.sourceUrl.redact_eq h.destinationUrl.redact_eq

/-- An address with secrets wherever there is room for one. -/
def guarded : Url.Spelling where
  scheme := "https"
  userinfo := some "relay:p@ss:word"
  host := "[::1]"
  port := some "8545"
  path := some "v2/key"
  query := some "token=?#"
  fragment := some " @end "

/-- The same place without any. -/
def bare : Url.Spelling where
  scheme := "https"
  host := "[::1]"
  port := some "8545"

/-- A configuration with one address for both nodes and one key for both accounts. -/
def atNode (address key : String) : Config where
  source := ⟨address, none, some ⟨key⟩⟩
  destination := ⟨address, none, default, ⟨key⟩, 1, 1⟩
  relay := default

theorem blanked_atNode (address key : String) : (atNode address key).blanked = atNode "" "" := rfl

/-- With either address and either key the written form is the same. -/
theorem text_hides_secrets_guarded :
    SameButSecrets (atNode guarded.text "0x01") (atNode bare.text "0x02") ∧
      (atNode guarded.text "0x01").text = (atNode bare.text "0x02").text ∧
      Url.redact guarded.text = "https://[::1]:8545" := by
  have hhost : ∀ c ∈ "[::1]".toList, Url.IsPlain c := fun c hc => of_decide_eq_true
    (List.all_eq_true.mp (show "[::1]".toList.all (Url.IsPlain ·) = true by decide) c hc)
  have hport : ∀ s ∈ some "8545", ∀ c ∈ s.toList, c.isDigit = true := by
    rintro s ⟨⟩
    exact List.all_eq_true.mp (by decide)
  have huser : ∀ s ∈ some "relay:p@ss:word", ∀ c ∈ s.toList,
      Url.endsAuthority true c = false := by
    rintro s ⟨⟩ c hc
    have hall : "relay:p@ss:word".toList.all (!Url.endsAuthority true ·) = true := by decide
    exact (Bool.not_eq_true' _).mp (List.all_eq_true.mp hall c hc)
  have hsite : Url.SameSite guarded.text bare.text :=
    ⟨guarded, bare, ⟨Or.inr rfl, huser, by decide, hhost, hport⟩,
      ⟨Or.inr rfl, nofun, by decide, hhost, hport⟩, rfl, rfl, ⟨rfl, rfl, rfl⟩⟩
  have hsame : SameButSecrets (atNode guarded.text "0x01") (atNode bare.text "0x02") :=
    ⟨(blanked_atNode _ _).trans (blanked_atNode _ _).symm, hsite, hsite⟩
  have hshown : Url.redact guarded.text = "https://[::1]:8545" := by
    rw [hsite.redact_eq]
    decide
  exact ⟨hsame, text_hides_secrets hsame, hshown⟩

end Config

end MessageRelay
