import MessageRelay.Published

/-!
# Sample messages and receipts

Small values for trying out a relay: the message of a given sequence number from one fixed sender,
and a successful receipt that publishes given messages.
-/

namespace MessageRelay

/-- The sender of all sample messages. -/
def sampleSender : Address :=
  Octets.replicate 20 0xaa

/-- The sample message of a sequence number. Its nonce is the low half of that number and its
payload writes it in eight bytes. -/
def Message.sample (sequence : UInt64) : Message where
  sender := sampleSender
  sequence := sequence
  nonce := sequence.toUInt32
  topic := 1
  payload := Bytes.ofNat 8 sequence.toNat
  consistencyLevel := 1

/-- A successful receipt that publishes the given messages. -/
def SourceReceipt.sample (transaction : Hash) (messages : List Message) : SourceReceipt where
  transaction := transaction
  status := successStatus
  logs := messages.map Published.encode

end MessageRelay
