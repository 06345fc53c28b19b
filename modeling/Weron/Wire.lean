import Mathlib.Data.List.AList

/-!
# Signaling envelopes

The adapter exchanges encrypted JSON envelopes with the signaler. An introduction names a
peer that joined the community; offers, answers and candidates carry one negotiation step
from `sender` to `recipient`. The envelope types belong to the repository's `websocketapi`
package and the cipher to its `encryption` package, neither of which is in this source
tree. The session loop only calls them, so the model takes them as a `Codec` over an
arbitrary type `Raw` of byte strings.

Outbound envelopes are kept as the values the loop marshals (`Envelope`); inbound frames
stay raw and pass through the codec in the order `Adapter.Open` calls it. `Codec.plain` is
a codec without a cipher, under which the runs of two adapters are replayed.
-/

namespace Weron

/-- Modelled from the spec: `websocketapi.TypeIntroduction`, whose package is missing. -/
def typeIntroduction : String := "introduction"

/-- Modelled from the spec: `websocketapi.TypeOffer`, whose package is missing. -/
def typeOffer : String := "offer"

/-- Modelled from the spec: `websocketapi.TypeAnswer`, whose package is missing. -/
def typeAnswer : String := "answer"

/-- Modelled from the spec: `websocketapi.TypeCandidate`, whose package is missing. -/
def typeCandidate : String := "candidate"

/-- `webrtc.SDPType`, restricted to the two kinds the adapter creates. -/
inductive SdpType
  | offer
  | answer
  deriving DecidableEq, Repr

/-- A `webrtc.SessionDescription`. Its text is the engine's; the model keeps its kind and
the connection whose `CreateOffer` or `CreateAnswer` produced it, named by the local id of
that adapter and the connection's handle, which the description's ICE credentials
identify. -/
structure SessionDescription where
  type : SdpType
  owner : String
  conn : Nat
  deriving DecidableEq, Repr

/-- `websocketapi.Message`: the envelope header the loop decodes first. -/
structure Message where
  type : String
  deriving DecidableEq, Repr

/-- Modelled from the spec: `websocketapi.Introduction`, with its `From` field. -/
structure Introduction where
  sender : String
  deriving DecidableEq, Repr

/-- Modelled from the spec: `websocketapi.Exchange`, the body of offers, answers and
candidates, with its `From`, `To` and `Payload` fields. -/
structure Exchange (Raw : Type) where
  sender : String
  recipient : String
  payload : Raw
  deriving DecidableEq, Repr

/-- An envelope as the loop builds it before `json.Marshal`: `websocketapi.NewIntroduction`,
`NewOffer`, `NewAnswer` and `NewCandidate`. Offers and answers carry the session
description that `json.Marshal` turns into their payload; candidates carry the bytes of
the candidate's text. -/
inductive Envelope (Raw : Type)
  | introduction (sender : String)
  | offer (sender recipient : String) (description : SessionDescription)
  | answer (sender recipient : String) (description : SessionDescription)
  | candidate (sender recipient : String) (candidate : Raw)
  deriving DecidableEq, Repr

namespace Envelope

variable {Raw : Type}

/-- The `From` field of an envelope. -/
def sender : Envelope Raw → String
  | .introduction sender => sender
  | .offer sender _ _ => sender
  | .answer sender _ _ => sender
  | .candidate sender _ _ => sender

/-- The `type` field an envelope is marshalled with. -/
def type : Envelope Raw → String
  | .introduction _ => typeIntroduction
  | .offer _ _ _ => typeOffer
  | .answer _ _ _ => typeAnswer
  | .candidate _ _ _ => typeCandidate

end Envelope

/-- The external functions the loop calls on frames: `encryption.Encrypt` and
`encryption.Decrypt` under the community key (both may fail), `json.Marshal` of envelopes
and session descriptions, and `json.Unmarshal` into each envelope type. `empty` is the
nil slice received from a closed channel. -/
structure Codec (Raw : Type) where
  encrypt : Raw → Option Raw
  decrypt : Raw → Option Raw
  marshal : Envelope Raw → Raw
  marshalDescription : SessionDescription → Raw
  unmarshalMessage : Raw → Option Message
  unmarshalIntroduction : Raw → Option Introduction
  unmarshalExchange : Raw → Option (Exchange Raw)
  unmarshalDescription : Raw → Option SessionDescription
  empty : Raw

/-- Frames of the plain codec: no cipher, and a frame is the envelope it spells. -/
inductive Plain
  | introduction (sender : String)
  | exchange (type sender recipient : String) (payload : Plain)
  | description (description : SessionDescription)
  | text (text : String)
  deriving DecidableEq, Repr

namespace Codec

/-- A codec without a cipher whose frames are envelopes spelled out; `text` frames parse as
nothing. -/
def plain : Codec Plain where
  encrypt := some
  decrypt := some
  marshal
    | .introduction sender => .introduction sender
    | .offer sender recipient description =>
      .exchange typeOffer sender recipient (.description description)
    | .answer sender recipient description =>
      .exchange typeAnswer sender recipient (.description description)
    | .candidate sender recipient candidate =>
      .exchange typeCandidate sender recipient candidate
  marshalDescription := .description
  unmarshalMessage
    | .introduction _ => some ⟨typeIntroduction⟩
    | .exchange type _ _ _ => some ⟨type⟩
    | _ => none
  unmarshalIntroduction
    | .introduction sender => some ⟨sender⟩
    | _ => none
  unmarshalExchange
    | .exchange _ sender recipient payload => some ⟨sender, recipient, payload⟩
    | _ => none
  unmarshalDescription
    | .description description => some description
    | _ => none
  empty := .text ""

end Codec

end Weron
