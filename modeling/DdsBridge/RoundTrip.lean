import DdsBridge.Frame
import DdsBridge.QosWire

/-!
# Parsing undoes serializing

Every payload that fits its length fields comes back from its own encoding; inside a payload the
strings, QoS sets and key descriptors come back in front of any tail. A built message has the
header it was built with and its payload behind it.
-/

namespace DdsBridge

open Cursor

/-- A parser that undoes a serializer on the values the serializer is meant for. -/
def Undoes {α : Type} (parse : Bytes → Res ProtocolError α) (serialize : α → Bytes)
    (wf : α → Prop) : Prop := ∀ p, wf p → parse (serialize p) = .ok p

theorem ends_checkNoTrailing {α : Type} {p : Cursor ProtocolError α} {a : α} (hp : Ends p [] a) :
    Ends (checkNoTrailing >>= fun _ => p) [] a := by
  unfold Ends
  rw [Prog.bind_of_ok (show checkNoTrailing [] = .ok ((), []) from rfl)]
  exact hp

/-! ## Payloads without a tail -/

/-- `endpointBytes` with the byte `flag` for `is_keyed`. -/
def flaggedBytes (topicName typeName : String) (qos : QosSet) (flag : UInt8)
    (keyDescriptors : KeyDescriptors) : Bytes :=
  writeString topicName ++ (writeString typeName ++ (serializeQos qos ++
    ([flag] ++ serializeKeyDescriptors keyDescriptors)))

section
variable {α : Type} (mk : String → String → QosSet → Bool → KeyDescriptors → α)
  {topic type : String} {qos : QosSet} {keys : KeyDescriptors}

theorem readEndpoint_flaggedBytes (flag : UInt8) (h : StringFits topic ∧ StringFits type ∧ qos.WF ∧ keys.Fits) :
    (readEndpoint mk).eval (flaggedBytes topic type qos flag keys) = .ok (mk topic type qos (flag != 0) keys) := by
  refine Ends.eval ((reads_readString h.1).ends ((reads_readString h.2.1).ends ?_))
  refine (reads_parseQos h.2.2.1).ends ((reads_readBool flag).ends ?_)
  exact (reads_parseKeyDescriptors h.2.2.2).ends_nil (ends_checkNoTrailing (ends_pure _))

theorem readEndpoint_endpointBytes (isKeyed : Bool)
    (h : StringFits topic ∧ StringFits type ∧ qos.WF ∧ keys.Fits) :
    (readEndpoint mk).eval (endpointBytes topic type qos isKeyed keys) =
      .ok (mk topic type qos isKeyed keys) := by
  have hread := readEndpoint_flaggedBytes mk (if isKeyed then 1 else 0) h
  cases isKeyed <;> exact hread

end

theorem subscribe_undoes : Undoes parseSubscribe serializeSubscribe SubscribePayload.WF :=
  fun p hp => readEndpoint_endpointBytes SubscribePayload.mk p.isKeyed hp

theorem createWriter_undoes : Undoes parseCreateWriter serializeCreateWriter CreateWriterPayload.WF :=
  fun p hp => readEndpoint_endpointBytes CreateWriterPayload.mk p.isKeyed hp

theorem unsubscribe_undoes : Undoes parseUnsubscribe serializeUnsubscribe UnsubscribePayload.WF := by
  intro p hp
  refine Ends.eval ((reads_readString hp.1).ends ?_)
  exact (reads_readString hp.2).ends_nil (ends_checkNoTrailing (ends_pure _))

theorem deleteWriter_undoes : Undoes parseDeleteWriter serializeDeleteWriter fun _ => True := by
  intro p _
  refine Ends.eval (Ends.ensure (by simp [serializeDeleteWriter]) ?_)
  exact (reads_getU32le _).ends_nil (ends_checkNoTrailing (ends_pure _))

theorem ErrorCode.fromU16_toU16 (c : ErrorCode) : fromU16 c.toU16 = .ok c := by cases c <;> rfl

theorem error_undoes : Undoes parseError serializeError fun p => StringFits p.errorMessage := by
  intro p hp
  refine Ends.eval (Ends.ensure (by simp [serializeError]) ((reads_getU16le _).ends ?_))
  apply Reads.ends (u := []) (reads_ofRes (ErrorCode.fromU16_toU16 _))
  exact (reads_readString hp).ends_nil (ends_checkNoTrailing (ends_pure _))

/-! ## Payloads that end in an opaque tail -/

theorem reads_writeModeByte {mode : UInt8} {u : Bytes} {a : WriteMode} {p : Cursor ProtocolError WriteMode}
    (hp : Ends p u a) (hm : (match mode with
      | 0x00 => readTopicNameMode
      | 0x01 => readWriterIdMode
      | mode => Prog.throw (.invalidWriteMode mode)) = p) : Ends readWriteMode (mode :: u) a := by
  subst hm
  exact Ends.ensure (by simp) (Reads.ends (u := [mode]) (reads_getU8 mode) hp)

theorem writeMode_undoes : Undoes parseWriteMode serializeWriteMode WriteMode.WF := by
  intro mode hm
  apply Ends.eval
  cases mode with
  | topicName topic type qos keys data =>
    refine reads_writeModeByte ?_ rfl
    refine (reads_readString hm.1).ends ((reads_readString hm.2.1).ends ?_)
    refine (reads_parseQos hm.2.2.1).ends ((reads_parseKeyDescriptors hm.2.2.2).ends ?_)
    exact Ends.rest (ends_pure _)
  | writerId id keyBytes data =>
    have hlen : (UInt32.ofNat keyBytes.length).toNat = keyBytes.length := by
      rw [UInt32.toNat_ofNat']
      exact Nat.mod_eq_of_lt hm
    refine reads_writeModeByte ?_ rfl
    refine Ends.ensure (by simp; omega) ((reads_getU32le _).ends ((reads_getU32le _).ends ?_))
    rw [hlen]
    refine Ends.ensure (by simp) ((reads_take keyBytes).ends ?_)
    exact Ends.rest (ends_pure _)

theorem Undoes.map {α β : Type} {parse : Bytes → Res ProtocolError α} {serialize : α → Bytes}
    {wf : α → Prop} (h : Undoes parse serialize wf) (mk : α → β) (get : β → α)
    (hmk : ∀ b, mk (get b) = b) :
    Undoes (fun u => mk <$> parse u) (fun b => serialize (get b)) fun b => wf (get b) := by
  intro b hb
  exact Res.map_eq_ok.mpr ⟨get b, h (get b) hb, hmk b⟩

theorem readStamped_stampedBytes {α : Type} (mk : String → UInt64 → Bytes → α) {topic : String}
    (stamp : UInt64) (data : Bytes) (h : StringFits topic) :
    (readStamped mk).eval (stampedBytes topic stamp data) = .ok (mk topic stamp data) := by
  refine Ends.eval ((reads_readString h).ends (Ends.ensure (by simp) ?_))
  exact (reads_getU64le stamp).ends (Ends.rest (ends_pure _))

theorem dataNoWriters_undoes :
    Undoes parseDataNoWriters serializeDataNoWriters fun p => StringFits p.topicName := by
  intro p hp
  exact Ends.eval ((reads_readString hp).ends (Ends.rest (ends_pure _)))

/-! ## Headers -/

theorem reads_readHeader (header : Header) : Reads readHeader (serializeHeader header) header := by
  apply Reads.ensure (by simp [headerSize])
  refine Reads.bind (u := [0x44]) (reads_getU8 _) (Reads.bind (u := [0x42]) (reads_getU8 _) ?_)
  refine Reads.check ⟨rfl, rfl⟩ ?_
  apply Reads.bind (u := [header.version]) (reads_getU8 _)
  apply Reads.bind (u := [header.msgType.toU8]) (reads_getU8 _)
  apply Reads.bind (u := []) (reads_ofRes (MsgType.fromU8_toU8 _))
  exact (reads_getU32le _).bind ((reads_getU32le _).bind_nil (reads_pure _))

theorem parseHeader_serializeHeader (header : Header) (u : Bytes) :
    parseHeader (serializeHeader header ++ u) = .ok header :=
  Prog.eval_eq_ok.mpr ⟨u, reads_readHeader header u⟩

theorem parseHeader_buildMessage (t : MsgType) (id : UInt32) (payload : Bytes) :
    parseHeader (buildMessage t id payload) =
      .ok { version, msgType := t, requestId := id, payloadLength := UInt32.ofNat payload.length } :=
  parseHeader_serializeHeader _ payload

theorem drop_buildMessage (t : MsgType) (id : UInt32) (payload : Bytes) :
    (buildMessage t id payload).drop headerSize = payload := by
  rw [buildMessage, List.drop_append_of_le_length (by simp [headerSize])]
  simp [headerSize]

/-- **The wire format.** -/
theorem parse_serialize :
    Undoes parseSubscribe serializeSubscribe SubscribePayload.WF ∧
    Undoes parseUnsubscribe serializeUnsubscribe UnsubscribePayload.WF ∧
    Undoes parseCreateWriter serializeCreateWriter CreateWriterPayload.WF ∧
    Undoes parseDeleteWriter serializeDeleteWriter (fun _ => True) ∧
    Undoes parseWrite serializeWrite (fun p => p.mode.WF) ∧
    Undoes parseDispose serializeDispose (fun p => p.mode.WF) ∧
    Undoes parseWriteDispose serializeWriteDispose (fun p => p.mode.WF) ∧
    Undoes parseData serializeData (fun p => StringFits p.topicName) ∧
    Undoes parseDataDisposed serializeDataDisposed (fun p => StringFits p.topicName) ∧
    Undoes parseDataNoWriters serializeDataNoWriters (fun p => StringFits p.topicName) ∧
    Undoes parseError serializeError (fun p => StringFits p.errorMessage) ∧
    (∀ s rest, StringFits s → readString (writeString s ++ rest) = .ok (s, rest)) ∧
    (∀ qos rest, qos.WF → parseQos (serializeQos qos ++ rest) = .ok (qos, rest)) ∧
    (∀ keys rest, keys.Fits →
      parseKeyDescriptors (serializeKeyDescriptors keys ++ rest) = .ok (keys, rest)) ∧
    (∀ t id payload, payload.length < 2 ^ 32 → ∃ header : Header,
      parseHeader (buildMessage t id payload) = .ok header ∧ header.version = 1 ∧
      header.msgType = t ∧ header.requestId = id ∧ header.payloadLength.toNat = payload.length ∧
      (buildMessage t id payload).drop 12 = payload) := by
  have hw := writeMode_undoes
  refine ⟨subscribe_undoes, unsubscribe_undoes, createWriter_undoes, deleteWriter_undoes,
    hw.map WritePayload.mk _ fun _ => rfl, hw.map DisposePayload.mk _ fun _ => rfl,
    hw.map WriteDisposePayload.mk _ fun _ => rfl,
    fun p hp => readStamped_stampedBytes DataPayload.mk _ _ hp,
    fun p hp => readStamped_stampedBytes DataDisposedPayload.mk _ _ hp,
    dataNoWriters_undoes, error_undoes, fun s rest hs => reads_readString hs rest,
    fun qos rest hq => reads_parseQos hq rest, fun keys rest hk => reads_parseKeyDescriptors hk rest,
    fun t id payload hlen => ?_⟩
  refine ⟨_, parseHeader_buildMessage t id payload, rfl, rfl, rfl, ?_, drop_buildMessage t id payload⟩
  rw [UInt32.toNat_ofNat']
  exact Nat.mod_eq_of_lt hlen

/-- `parse_serialize` on a subscription with a partition list and on a written sample. -/
theorem parse_serialize_subscribe_write :
    parseSubscribe (serializeSubscribe
      { topicName := "t", typeName := "T", qos := { policies := [.partition ["a", "b"], .history 1 0] },
        isKeyed := true, keyDescriptors := { keys := [⟨0, 4, .int32⟩] } }) =
      .ok { topicName := "t", typeName := "T",
            qos := { policies := [.partition ["a", "b"], .history 1 0] },
            isKeyed := true, keyDescriptors := { keys := [⟨0, 4, .int32⟩] } } ∧
    parseWrite (serializeWrite ⟨.writerId 7 [1, 2] [3]⟩) = .ok ⟨.writerId 7 [1, 2] [3]⟩ ∧
    readString (writeString "é" ++ [9]) = .ok ("é", [9]) := by
  refine ⟨parse_serialize.1 _ ⟨by unfold StringFits; decide, by unfold StringFits; decide, ⟨by decide, ?_⟩,
    by unfold KeyDescriptors.Fits; decide⟩, ?_, ?_⟩
  · simp only [List.forall_mem_cons, List.not_mem_nil, false_implies, implies_true, and_true,
      QosPolicy.WF, StringFits]
    decide
  · exact parse_serialize.2.2.2.2.1 _ (by change 2 < 2 ^ 32; decide)
  · exact parse_serialize.2.2.2.2.2.2.2.2.2.2.2.1 "é" [9] (by unfold StringFits; decide)

end DdsBridge
