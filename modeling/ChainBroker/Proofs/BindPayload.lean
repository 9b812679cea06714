import ChainBroker.Credentials
import ChainBroker.Proofs.JsonReading
import ChainBroker.Proofs.Utf8

/-!
# Payloads of binds

What a payload is made of is what the broker reads from it. The members of the record are read one
by one (`fills_payload`), so the record as a whole, so its bytes; these start with a bracket, and are
not taken for a payload of blanks.
-/

namespace ChainBroker.BindRequest

open Json

/-- The members that a payload is made of. -/
def members (url : Option String) (args : List String) : List (String × Json) :=
  ("contract_args", texts args) :: match url with
    | some url => [("contract_url", .text url)]
    | none => []

variable (url : Option String) (args : List String)

theorem payload_none : payload url args none = (Json.record (members url args)).render .compact :=
  rfl

theorem fills_payload : Fills shape {} (members url args) ⟨url.map some, some args⟩ := by
  refine .cons rfl rfl (reads_field (reads_texts args) _) ?_
  cases url with
  | none => exact .nil rfl
  | some url =>
    have hurl := (reads_text url).nullable (by simp)
    exact .cons rfl rfl (reads_field hurl _) (.nil rfl)

theorem reads_payload : Reads reader (.record (members url args)) ⟨url, args⟩ := by
  have hfills := fills_payload url args
  cases url with
  | none => exact (reads_record hfills).map _
  | some url => exact (reads_record hfills).map _

theorem all_isAsciiBlank_payload : (Utf8.encode (payload url args none)).all isAsciiBlank = false := by
  obtain ⟨t, ht⟩ : ∃ t, (payload url args none).toList = '\x7b' :: t := by
    rw [payload_none, Json.render, String.toList_ofList]
    exact ⟨_, rfl⟩
  unfold Utf8.encode
  rw [ht]
  rfl

theorem decode_payload :
    decode (nullable reader) (Utf8.ofText (payload url args none)) = .ok (some ⟨url, args⟩) := by
  rw [payload_none]
  exact ((reads_payload url args).nullable (by simp)).decode .compact

/-- **A payload that is made of an address and arguments is read as these**, whatever they hold, and
one that is given goes to the broker byte by byte. -/
theorem ofPayload_payload :
    (∀ url args, ofPayload (Utf8.encode (payload url args none)) = .ok ⟨url, args⟩) ∧
      ∀ url args raw, (Utf8.encode (payload url args (some raw))).toByteArray = raw.toUTF8 := by
  constructor
  · intro url args
    unfold ofPayload
    rw [all_isAsciiBlank_payload, Utf8.pieces_encode, decode_payload]
    rfl
  · intro url args raw
    exact Utf8.toByteArray_encode raw

end ChainBroker.BindRequest
