import MessageRelay.Client
import MessageRelay.Proofs.Config.RoundTrip

/-!
# The keys of a loaded configuration

A key should be the marker `0x` and sixty-four hexadecimal digits (`MessageRelay.IsKeyText`), and
the words of the error say so. The check looks at the length in bytes and at the marker, and at
nothing behind it (`MessageRelay.Config.hasKeyForm`). So it lets every key through
(`MessageRelay.IsKeyText.hasKeyForm`), and other texts as well: what has the length and the marker
is loaded as it stands (`MessageRelay.Config.loaded_keys`), digits or not
(`MessageRelay.Config.no_key_survives`).

The digits are read later on, when a client is made. That fails on what is no key, so what gets as
far as a client is one.
-/

namespace MessageRelay

/-- A hexadecimal digit in either letter case. -/
def IsHexDigit (c : Char) : Prop :=
  ('0' ≤ c ∧ c ≤ '9') ∨ ('a' ≤ c ∧ c ≤ 'f') ∨ ('A' ≤ c ∧ c ≤ 'F')

/-- What has a value as a digit is one. -/
theorem isSome_hexValue?_iff {c : Char} :
    (Bytes.hexValue? c).isSome = true ↔ IsHexDigit c := by
  rw [Bytes.hexValue?, IsHexDigit]
  split
  · next h => exact iff_of_true rfl (Or.inl h)
  · next h₁ =>
    split
    · next h => exact iff_of_true rfl (Or.inr (Or.inl h))
    · next h₂ =>
      split
      · next h => exact iff_of_true rfl (Or.inr (Or.inr h))
      · next h₃ =>
        refine iff_of_false Bool.false_ne_true ?_
        rintro (h | h | h)
        · exact h₁ h
        · exact h₂ h
        · exact h₃ h

/-- **The form of a key**: the marker `0x` and sixty-four hexadecimal digits. -/
def IsKeyText (key : String) : Prop :=
  ∃ digits, key.toList = '0' :: 'x' :: digits ∧ digits.length = 64 ∧ ∀ c ∈ digits, IsHexDigit c

/-! ### The check and the reader -/

variable {key : String}

/-- **Every key passes the check.** -/
theorem IsKeyText.hasKeyForm (h : IsKeyText key) : Config.hasKeyForm key = true := by
  obtain ⟨digits, hkey, hlength, hdigits⟩ := h
  have hascii : Text.IsAscii key.toList := by
    rw [hkey]
    intro c hc
    rcases List.mem_cons.mp hc with rfl | hc
    · decide
    rcases List.mem_cons.mp hc with rfl | hc
    · decide
    · exact (Bytes.isGraphic_of_hexValue? (isSome_hexValue?_iff.mpr (hdigits c hc))).2
  refine Config.hasKeyForm_iff.mpr ⟨?_, digits, hkey⟩
  rw [Bytes.ofText_of_ascii hascii, List.length_map, hkey, List.length_cons, List.length_cons,
    hlength]

/-- **What passes the check is a key if and only if its digits can be read.** -/
theorem isKeyText_iff (h : Config.hasKeyForm key = true) :
    IsKeyText key ↔ (Octets.ofHex? 32 key).isSome = true := by
  obtain ⟨-, rest, hkey⟩ := Config.hasKeyForm_iff.mp h
  have hdrop : Bytes.dropMarker key.toList = rest := by rw [hkey]; rfl
  rw [Octets.ofHex?_isSome_iff, hdrop]
  constructor
  · rintro ⟨digits, hdigits, hlength, hhex⟩
    have hsame : '0' :: 'x' :: rest = '0' :: 'x' :: digits := hkey.symm.trans hdigits
    obtain rfl : rest = digits := (List.cons.inj (List.cons.inj hsame).2).2
    exact ⟨hlength, fun c hc => isSome_hexValue?_iff.mpr (hhex c hc)⟩
  · rintro ⟨hlength, hhex⟩
    exact ⟨rest, hkey, hlength, fun c hc => isSome_hexValue?_iff.mp (hhex c hc)⟩

/-- What is read as a private key and passes the check is a key. -/
theorem isKeyText_of_parseOr {e : ClientError} {k : PrivateKey}
    (hform : Config.hasKeyForm key = true) (h : PrivateKey.parseOr e key = .ok k) :
    IsKeyText key := by
  refine (isKeyText_iff hform).mpr ?_
  rw [PrivateKey.parseOr, PrivateKey.ofText?] at h
  cases hread : Octets.ofHex? 32 key with
  | none =>
    rw [hread] at h
    cases h
  | some octets => rfl

namespace Config

variable {env : Environment} {c : Config} {text : String}

/-! ### Another key -/

/-- The keys of a configuration. -/
def keys (c : Config) : List (Redacted String) :=
  c.destination.privateKey :: c.source.privateKey.toList

/-- The configuration with another key that signs deliveries. -/
def withRelayerKey (c : Config) (key : String) : Config :=
  { c with destination := { c.destination with privateKey := ⟨key⟩ } }

/-- The configuration with another key that signs a triggering transaction, or with none. -/
def withSourceKey (c : Config) (key : Option (Redacted String)) : Config :=
  { c with source := { c.source with privateKey := key } }

/-- A relayer's key without the form of keys is refused, and nothing else is. -/
theorem Valid.validate_withRelayerKey (h : Valid c) (key : String) :
    (c.withRelayerKey key).validate =
      if hasKeyForm key then .ok () else .error (.badKey "RELAYER_PRIVATE_KEY") := by
  cases hform : hasKeyForm key with
  | true =>
    rw [if_pos rfl]
    exact validate_eq_ok_iff.mpr ⟨h.sourceUrl, h.destinationUrl, hform, h.sourceKey, h.messageBus,
      h.messenger, h.gasLimit, h.pollInterval, h.finalityTimeout, h.runTimeout⟩
  | false =>
    rw [if_neg Bool.false_ne_true, validate]
    simp only [withRelayerKey, h.sourceUrl, h.destinationUrl, hform, except_ok_seq]
    rfl

/-- A source key without the form of keys is refused, and nothing else is. -/
theorem Valid.validate_withSourceKey (h : Valid c) (key : Option (Redacted String)) :
    (c.withSourceKey key).validate =
      if key.all (hasKeyForm ·.secret) then .ok () else .error (.badKey "SOURCE_PRIVATE_KEY") := by
  cases hform : key.all (hasKeyForm ·.secret) with
  | true =>
    rw [if_pos rfl]
    exact validate_eq_ok_iff.mpr ⟨h.sourceUrl, h.destinationUrl, h.relayerKey, hform, h.messageBus,
      h.messenger, h.gasLimit, h.pollInterval, h.finalityTimeout, h.runTimeout⟩
  | false =>
    rw [if_neg Bool.false_ne_true, validate]
    simp only [withSourceKey, h.sourceUrl, h.destinationUrl, h.relayerKey, hform, require_true,
      except_ok_seq]
    rfl

theorem ofEnvironment_set_relayerKey (h : ofEnvironment env = .ok c) (text : String) :
    ofEnvironment (env.set "RELAYER_PRIVATE_KEY" text) =
      if hasKeyForm text then .ok (c.withRelayerKey text)
      else .error (.badKey "RELAYER_PRIVATE_KEY") := by
  obtain ⟨-, hd, -, hvalid⟩ := ofEnvironment_eq_ok_iff.mp h
  obtain ⟨hurl, hbus, ⟨at', hat, hmessenger⟩, -, ⟨limit, hlimit, hgas⟩, fee, hfee, hmax⟩ :=
    readDestination_eq_ok_iff.mp hd
  have hdestination : readDestination (env.set "RELAYER_PRIVATE_KEY" text) =
      .ok (c.withRelayerKey text).destination := by
    refine readDestination_eq_ok_iff.mpr ⟨?_, ?_, ⟨at', ?_, hmessenger⟩, required_set_self,
      ⟨limit, ?_, hgas⟩, fee, ?_, hmax⟩
    · rw [required_set_of_ne (by decide), hurl]; rfl
    · rw [address?_set_of_ne (by decide), hbus]; rfl
    · rw [required_set_of_ne (by decide), hat]
    · rw [value?_set_of_ne (by decide), hlimit]
    · rw [value?_set_of_ne (by decide), hfee]
  have hset : ofEnvironment (env.set "RELAYER_PRIVATE_KEY" text) =
      (c.withRelayerKey text).validate.map fun _ => c.withRelayerKey text :=
    ofEnvironment_of_destination h (readSource_set (by decide)) hdestination
      (readRelay_set (by decide))
  rw [hset, hvalid.validate_withRelayerKey]
  split <;> rfl

theorem ofEnvironment_set_sourceKey (h : ofEnvironment env = .ok c) (text : String) :
    ofEnvironment (env.set "SOURCE_PRIVATE_KEY" text) =
      if Text.isAllBlank text then .ok (c.withSourceKey none)
      else if hasKeyForm text then .ok (c.withSourceKey (some ⟨text⟩))
      else .error (.badKey "SOURCE_PRIVATE_KEY") := by
  obtain ⟨hs, -, -, hvalid⟩ := ofEnvironment_eq_ok_iff.mp h
  obtain ⟨hurl, hbus, -⟩ := readSource_eq_ok_iff.mp hs
  -- whatever the key is that is read, only its form can be refused
  have hset : ∀ key : Option (Redacted String),
      (present? (env.set "SOURCE_PRIVATE_KEY" text) "SOURCE_PRIVATE_KEY").map Redacted.mk = key →
      ofEnvironment (env.set "SOURCE_PRIVATE_KEY" text) =
        if key.all (hasKeyForm ·.secret) then .ok (c.withSourceKey key)
        else .error (.badKey "SOURCE_PRIVATE_KEY") := by
    intro key hkey
    have hsource : readSource (env.set "SOURCE_PRIVATE_KEY" text) =
        .ok (c.withSourceKey key).source := by
      refine readSource_eq_ok_iff.mpr ⟨?_, ?_, hkey⟩
      · rw [required_set_of_ne (by decide), hurl]; rfl
      · rw [address?_set_of_ne (by decide), hbus]; rfl
    have hread : ofEnvironment (env.set "SOURCE_PRIVATE_KEY" text) =
        (c.withSourceKey key).validate.map fun _ => c.withSourceKey key :=
      ofEnvironment_of_source h hsource (readDestination_set (by decide))
        (readRelay_set (by decide))
    rw [hread, hvalid.validate_withSourceKey]
    split <;> rfl
  have hholds : (env.set "SOURCE_PRIVATE_KEY" text).Holds "SOURCE_PRIVATE_KEY" text :=
    List.lookup_cons_self
  split
  · next hblank =>
    have hleft : (env.set "SOURCE_PRIVATE_KEY" text).LeavesOut "SOURCE_PRIVATE_KEY" :=
      Or.inr ⟨text, hblank, hholds⟩
    refine (hset none ?_).trans rfl
    rw [present?_of_leavesOut hleft, Option.map_none]
  · next hblank =>
    refine hset (some ⟨text⟩) ?_
    rw [present?_of_holds hholds (Bool.eq_false_iff.mpr hblank), Option.map_some]

/-! ### Which keys are loaded -/

/-- **The keys of a loaded configuration.** They have the length and the marker of keys, and they
are keys if and only if their digits can be read. More is not asked for: another text that is set as
a key is loaded as it stands if it has that length and that marker, and is refused if it has not. A
client can be made of a loaded configuration only if its key is one. -/
theorem loaded_keys (h : ofEnvironment env = .ok c) :
    (∀ key ∈ c.keys, hasKeyForm key.secret = true ∧
      (IsKeyText key.secret ↔ (Octets.ofHex? 32 key.secret).isSome = true)) ∧
    (∀ text, ofEnvironment (env.set "RELAYER_PRIVATE_KEY" text) =
      if hasKeyForm text then .ok (c.withRelayerKey text)
      else .error (.badKey "RELAYER_PRIVATE_KEY")) ∧
    (∀ text, ofEnvironment (env.set "SOURCE_PRIVATE_KEY" text) =
      if Text.isAllBlank text then .ok (c.withSourceKey none)
      else if hasKeyForm text then .ok (c.withSourceKey (some ⟨text⟩))
      else .error (.badKey "SOURCE_PRIVATE_KEY")) ∧
    (∀ bus client, DestinationClient.ofConfig c.destination bus = .ok client →
      IsKeyText c.destination.privateKey.secret) ∧
    ∀ key ∈ c.source.privateKey, ∀ client,
      SourceClient.ofKey c.source.rpcUrl key.secret = .ok client → IsKeyText key.secret := by
  obtain ⟨-, -, -, hvalid⟩ := ofEnvironment_eq_ok_iff.mp h
  have hsource : ∀ key ∈ c.source.privateKey, hasKeyForm key.secret = true := by
    intro key hkey
    have hall := hvalid.sourceKey
    rw [Option.mem_def.mp hkey] at hall
    exact hall
  have hform : ∀ key ∈ c.keys, hasKeyForm key.secret = true := by
    intro key hkey
    rcases List.mem_cons.mp hkey with rfl | hkey
    · exact hvalid.relayerKey
    · exact hsource key (Option.mem_toList.mp hkey)
  refine ⟨fun key hkey => ⟨hform key hkey, isKeyText_iff (hform key hkey)⟩,
    ofEnvironment_set_relayerKey h, ofEnvironment_set_sourceKey h, ?relayer, ?source⟩
  case relayer =>
    intro bus client hclient
    simp only [DestinationClient.ofConfig, except_bind_eq_ok_iff] at hclient
    obtain ⟨-, -, k, hk, -⟩ := hclient
    exact isKeyText_of_parseOr hvalid.relayerKey hk
  case source =>
    intro key hkey client hclient
    simp only [SourceClient.ofKey, except_bind_eq_ok_iff] at hclient
    obtain ⟨k, hk, -⟩ := hclient
    exact isKeyText_of_parseOr (hsource key hkey) hk

/-- A text with the length and the marker of a key, and with letters that are no digits. -/
def lettersText : String :=
  "0xgggggggggggggggggggggggggggggggggggggggggggggggggggggggggggggggg"

theorem hasKeyForm_lettersText : hasKeyForm lettersText = true := by decide

theorem not_isKeyText_lettersText : ¬ IsKeyText lettersText := by
  rw [isKeyText_iff hasKeyForm_lettersText]
  decide

/-- The least environment is loaded with those letters as either key, and not with a short text. A
client can be made with its own key. -/
theorem loaded_keys_sample :
    ∃ config, ofEnvironment sampleEnvironment = .ok config ∧
      (∃ client, DestinationClient.ofConfig config.destination default = .ok client ∧
        IsKeyText config.destination.privateKey.secret) ∧
      ofEnvironment (sampleEnvironment.set "RELAYER_PRIVATE_KEY" lettersText) =
        .ok (config.withRelayerKey lettersText) ∧
      ofEnvironment (sampleEnvironment.set "RELAYER_PRIVATE_KEY" "0x1234") =
        .error (.badKey "RELAYER_PRIVATE_KEY") ∧
      ofEnvironment (sampleEnvironment.set "SOURCE_PRIVATE_KEY" lettersText) =
        .ok (config.withSourceKey (some ⟨lettersText⟩)) := by
  have hmakes : ((ofEnvironment sampleEnvironment).toOption.bind fun config =>
      (DestinationClient.ofConfig config.destination default).toOption).isSome = true := by
    decide +kernel
  obtain ⟨client, hclient⟩ := Option.isSome_iff_exists.mp hmakes
  obtain ⟨config, hconfig, hclient⟩ := Option.bind_eq_some_iff.mp hclient
  have hloaded := except_eq_ok_of_toOption hconfig
  have hmade := except_eq_ok_of_toOption hclient
  obtain ⟨-, hrelayer, hsource, hkey, -⟩ := loaded_keys hloaded
  refine ⟨config, hloaded, ⟨client, hmade, hkey default client hmade⟩, ?letters, ?short, ?source⟩
  case letters => rw [hrelayer lettersText, if_pos hasKeyForm_lettersText]
  case short => rw [hrelayer "0x1234", if_neg (by decide)]
  case source =>
    have hblank : ¬ Text.isAllBlank lettersText = true := by decide
    rw [hsource lettersText, if_neg hblank, if_pos hasKeyForm_lettersText]

/-- **A text that is no key can be loaded as one.** -/
theorem no_key_survives :
    ¬ ∀ env config, ofEnvironment env = .ok config → ∀ key ∈ config.keys, IsKeyText key.secret := by
  intro hkeys
  obtain ⟨config, hloaded⟩ := exists_sample
  have hletters : ofEnvironment (sampleEnvironment.set "RELAYER_PRIVATE_KEY" lettersText) =
      .ok (config.withRelayerKey lettersText) := by
    rw [ofEnvironment_set_relayerKey hloaded, if_pos hasKeyForm_lettersText]
  exact not_isKeyText_lettersText (hkeys _ _ hletters ⟨lettersText⟩ List.mem_cons_self)

end Config

end MessageRelay
