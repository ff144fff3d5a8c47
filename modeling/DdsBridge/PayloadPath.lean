import DdsBridge.DdsSends
import DdsBridge.Fragments
import DdsBridge.RemoteCalls
import DdsBridge.SerdataMemory
import Mathlib

/-!
# The way of a payload

From the client that publishes it to the one that receives it: a request frame, `dds_write`, a serdata, the ranges of
it that Cyclone DDS sends, the serdata that is built of what comes in, a sample taken from a reader, a message to a
client.
-/

namespace DdsBridge

namespace PayloadPath

open GoDelivery (recvFrame DataMessage)
open Remote (Call)
open Calls (Acknowledged HandedOver)

/-! ## Ranges -/

/-- The ranges that Cyclone DDS asks for, one behind the other. -/
def wire (sd : OpaqueSerdata) : UInt64 → List UInt64 → Bytes
  | _, [] => []
  | off, sz :: cut => sd.serialized off sz ++ wire sd (off + sz) cut

/-- What a range past the end would have of the payload is zeros anyway. -/
def NoneLost (payload : Bytes) : UInt64 → List UInt64 → Prop
  | _, [] => True
  | off, sz :: cut =>
    (off.toNat + sz.toNat ≤ payload.length ∨ ∀ b ∈ payload.drop off.toNat, b = 0) ∧ NoneLost payload (off + sz) cut

/-- Where the last range ends. -/
def cutEnd (off : UInt64) (cut : List UInt64) : Nat := off.toNat + (cut.map UInt64.toNat).sum

theorem cutEnd_cons (off sz : UInt64) (cut : List UInt64) (h : cutEnd off (sz :: cut) < 2 ^ 64) :
    (off + sz).toNat = off.toNat + sz.toNat ∧ cutEnd (off + sz) cut = cutEnd off (sz :: cut) := by
  unfold cutEnd at h ⊢
  rw [List.map_cons, List.sum_cons] at h ⊢
  have hadd : (off + sz).toNat = off.toNat + sz.toNat := by
    rw [UInt64.toNat_add, Nat.mod_eq_of_lt (by omega)]
  exact ⟨hadd, by omega⟩

theorem noneLost_of_end {payload : Bytes} {off : UInt64} {cut : List UInt64} (hoff : payload.length ≤ off.toNat)
    (hcut : cutEnd off cut < 2 ^ 64) : NoneLost payload off cut := by
  induction cut generalizing off with
  | nil => trivial
  | cons sz cut ih =>
    obtain ⟨hadd, hend⟩ := cutEnd_cons off sz cut hcut
    refine ⟨.inr fun b hb => ?_, ih (by omega) (by omega)⟩
    rw [List.drop_eq_nil_of_le hoff] at hb
    cases hb

theorem take_wire_iff {sd : OpaqueSerdata} {off : UInt64} {cut : List UInt64} (hoff : off.toNat ≤ sd.payload.length)
    (hcover : sd.payload.length ≤ cutEnd off cut) (hcut : cutEnd off cut < 2 ^ 64) :
    (wire sd off cut).take (sd.payload.length - off.toNat) = sd.payload.drop off.toNat ↔
      NoneLost sd.payload off cut := by
  induction cut generalizing off with
  | nil =>
    have hlen : sd.payload.length ≤ off.toNat := by simpa [cutEnd] using hcover
    simp [wire, NoneLost, List.drop_eq_nil_of_le hlen]
  | cons sz cut ih =>
    obtain ⟨hadd, hend⟩ := cutEnd_cons off sz cut hcut
    rw [wire, NoneLost, OpaqueSerdata.serialized]
    by_cases hin : off.toNat + sz.toNat ≤ sd.payload.length
    · -- the range is all there
      have hlen : ((sd.payload.drop off.toNat).take sz.toNat).length = sz.toNat := by
        rw [List.length_take, List.length_drop]
        omega
      have hrest : (wire sd (off + sz) cut).take (sd.payload.length - (off + sz).toNat) =
          sd.payload.drop (off + sz).toNat ↔ NoneLost sd.payload (off + sz) cut :=
        ih (by omega) (by omega) (by omega)
      have hsplit : sd.payload.drop off.toNat =
          (sd.payload.drop off.toNat).take sz.toNat ++ sd.payload.drop (off + sz).toNat := by
        rw [hadd, ← List.drop_drop, List.take_append_drop]
      rw [if_pos hin, List.take_append, hlen, List.take_of_length_le (by omega)]
      conv_lhs => rhs; rw [hsplit]
      rw [List.append_cancel_left_eq, Nat.sub_sub, ← hadd, hrest]
      exact ⟨fun h => ⟨.inl (hadd.symm ▸ hin), h⟩, And.right⟩
    · -- it takes the place of all that is left
      have hdone : NoneLost sd.payload (off + sz) cut := noneLost_of_end (by omega) (by omega)
      have hlen : (sd.payload.drop off.toNat).length = sd.payload.length - off.toNat := List.length_drop
      rw [if_neg hin, List.take_append_of_le_length (by simp; omega), List.take_replicate, Nat.min_eq_left (by omega),
        eq_comm, List.eq_replicate_iff]
      simp [hin, hdone]

/-! ## Serdata -/

/-- How a reader comes by a serdata: it is the one that was written, or one of the same size that is built of fragments
or of iovecs with the bytes of the ranges, which cover the payload, for the sertype and the kind of the receiver. -/
inductive Delivered (sd : OpaqueSerdata) : List UInt64 → OpaqueSerdata → Prop
  | shared : Delivered sd [] sd
  | fragments (st : OpaqueSertype) (kind : SerdataKind) {cut : List UInt64} {fragchain : List Rdata} :
      sd.payload.length ≤ cutEnd 0 cut → cutEnd 0 cut < 2 ^ 64 →
      CoversPayload (wire sd 0 cut) sd.payload.length fragchain 0 →
      Delivered sd cut (sdFromSer st kind fragchain sd.payload.length)
  | iovecs (st : OpaqueSertype) (kind : SerdataKind) {cut : List UInt64} {iov : List Bytes} :
      sd.payload.length ≤ cutEnd 0 cut → cutEnd 0 cut < 2 ^ 64 → iov.flatten = wire sd 0 cut →
      Delivered sd cut (sdFromSerIov st kind iov sd.payload.length)

theorem length_wire (sd : OpaqueSerdata) (off : UInt64) (cut : List UInt64) :
    (wire sd off cut).length = (cut.map UInt64.toNat).sum := by
  induction cut generalizing off with
  | nil => rfl
  | cons sz cut ih =>
    have hlen : (sd.serialized off sz).length = sz.toNat := by
      unfold OpaqueSerdata.serialized
      split
      · rw [List.length_take, List.length_drop]
        omega
      · exact List.length_replicate
    rw [wire, List.length_append, hlen, ih, List.map_cons, List.sum_cons]

theorem sdFromSer_covers {st : OpaqueSertype} {kind : SerdataKind} {M : Bytes} {size : Nat} {fragchain : List Rdata}
    (hsize : size < 2 ^ 64) (h : CoversPayload M size fragchain 0) :
    sdFromSer st kind fragchain size = unkeyedSerdata st kind (M.take size) := by
  have hnat : (UInt64.ofNat size).toNat = size := by rw [UInt64.toNat_ofNat', Nat.mod_eq_of_lt hsize]
  have hzero : (0 : UInt64) ≤ UInt64.ofNat size := UInt64.zero_le
  have hchain : CoversPayload M (UInt64.ofNat size).toNat fragchain (0 : UInt64).toNat := by rwa [hnat]
  have hchecked := copyFragchainChecked_covers hchain (by decide) hzero (filledTo_zero M _)
  have hcopy := copyFragchainToBuf_of_checked (by decide) hzero hchecked
  rw [hnat] at hcopy
  exact congrArg (unkeyedSerdata st kind) hcopy

theorem sdFromSerIov_flatten {st : OpaqueSertype} {kind : SerdataKind} {M : Bytes} {size : Nat} {iov : List Bytes}
    (hsize : size ≤ M.length) (h : iov.flatten = M) :
    sdFromSerIov st kind iov size = unkeyedSerdata st kind (M.take size) := by
  have hchecked := copyIovChecked_filled hsize (h.trans List.drop_zero.symm) (Nat.zero_le _) (filledTo_zero M size)
  exact congrArg (unkeyedSerdata st kind) (copyIov_of_checked hchecked)

/-- The payload of what is delivered is the one that was written if and only if the ranges lose nothing of it. -/
theorem Delivered.payload_iff {sd sd' : OpaqueSerdata} {cut : List UInt64} (h : Delivered sd cut sd') :
    sd'.payload.length = sd.payload.length ∧ (sd'.payload = sd.payload ↔ NoneLost sd.payload 0 cut) := by
  have hcut : ∀ {cut : List UInt64}, sd.payload.length ≤ cutEnd 0 cut → cutEnd 0 cut < 2 ^ 64 →
      ((wire sd 0 cut).take sd.payload.length).length = sd.payload.length ∧
        ((wire sd 0 cut).take sd.payload.length = sd.payload ↔ NoneLost sd.payload 0 cut) := by
    intro cut hcover hend
    have hiff : (wire sd 0 cut).take (sd.payload.length - (0 : UInt64).toNat) = sd.payload.drop (0 : UInt64).toNat ↔
        NoneLost sd.payload 0 cut := take_wire_iff (Nat.zero_le _) hcover hend
    have hlen := length_wire sd 0 cut
    refine ⟨?_, by simpa using hiff⟩
    rw [List.length_take, hlen]
    simp only [cutEnd, UInt64.toNat_zero] at hcover
    omega
  cases h with
  | shared => exact ⟨rfl, by simp [NoneLost]⟩
  | fragments st kind hcover hend hchain =>
    rw [sdFromSer_covers (by omega) hchain]
    exact hcut hcover hend
  | iovecs st kind hcover hend hiov =>
    have hlen := length_wire sd 0 cut
    rw [sdFromSerIov_flatten (by simp only [cutEnd, UInt64.toNat_zero] at hcover; omega) hiov]
    exact hcut hcover hend

/-! ## Messages -/

/-- `StateAlive`, `StateDisposed` and `StateNoWriters` of the client. -/
def clientState : InstanceState → GoDelivery.InstanceState
  | .alive => .alive
  | .disposed => .disposed
  | .noWriters => .noWriters

/-- The sample as the client has it; a message that no writers are left has no timestamp. -/
def messageOf (sample : ReceivedSample) : DataMessage where
  topicName := utf8 sample.topicName
  sourceTimestamp := match sample.instanceState with
    | .noWriters => 0
    | _ => sample.sourceTimestamp.toUInt64
  data := sample.data
  state := clientState sample.instanceState

theorem recvFrame_sampleToMessage {sample : ReceivedSample} (pending : UInt32 → Bool) (h : StringFits sample.topicName)
    (hsize : 12 + (utf8 sample.topicName).length + sample.data.length < 2 ^ 32) :
    recvFrame pending (sampleToMessage sample) = .data (messageOf sample) := by
  have hstamped : ∀ stamp, (stampedBytes sample.topicName stamp sample.data).length < 2 ^ 32 := by
    intro stamp
    simp [stampedBytes, writeString]
    omega
  have hnames : (serializeDataNoWriters ⟨sample.topicName, sample.data⟩).length < 2 ^ 32 := by
    simp [serializeDataNoWriters, writeString]
    omega
  have hnoWriters : GoCodec.decodeDataNoWriters (serializeDataNoWriters ⟨sample.topicName, sample.data⟩) =
      .ok ⟨utf8 sample.topicName, sample.data⟩ :=
    Cursor.Ends.eval ((reads_decodeString h.go).ends (Cursor.Ends.rest (Cursor.ends_pure _)))
  have hstampedRead := fun {α : Type} (message : String) (mk : GoCodec.GoString → UInt64 → Bytes → α) =>
    goReadStamped_stampedBytes message mk sample.sourceTimestamp.toUInt64 sample.data h
  unfold sampleToMessage messageOf
  cases sample.instanceState with
  | alive =>
    dsimp only
    rw [GoDelivery.recvFrame_buildMessage, serializeData, Nat.mod_eq_of_lt (hstamped _), List.take_length]
    simp [GoDelivery.unsolicited, GoDelivery.onData, GoCodec.decodeData, hstampedRead, clientState]
  | disposed =>
    dsimp only
    rw [GoDelivery.recvFrame_buildMessage, serializeDataDisposed, Nat.mod_eq_of_lt (hstamped _), List.take_length]
    simp [GoDelivery.unsolicited, GoDelivery.onData, GoCodec.decodeDataDisposed, hstampedRead, clientState,
      MsgType.toU8]
  | noWriters =>
    dsimp only
    rw [GoDelivery.recvFrame_buildMessage, Nat.mod_eq_of_lt hnames, List.take_length]
    simp [GoDelivery.unsolicited, GoDelivery.onData, hnoWriters, clientState, MsgType.toU8]

/-! ## Requests -/

/-- What a call asks to have written, and how. -/
def published : Call → Option (WriteOp × SampleWrapper)
  | .publish op _ keyBytes data => some (op, .fromBytes data keyBytes)
  | .write op _ _ _ _ data => some (op, .fromBytes data [])
  | _ => none

theorem parseWriteMode_of_request {t : MsgType} {payload : Bytes} {op : WriteOp} {mode : WriteMode}
    (h : (Service.Request.write op mode).Says t payload) :
    WriteOp.ofMsgType t = some op ∧ parseWriteMode payload = .ok mode := by
  cases op with
  | write =>
    obtain ⟨rfl, h⟩ := h
    obtain ⟨mode', hmode, hmk⟩ := Res.map_eq_ok.mp h
    cases hmk
    exact ⟨rfl, hmode⟩
  | dispose =>
    obtain ⟨rfl, h⟩ := h
    obtain ⟨mode', hmode, hmk⟩ := Res.map_eq_ok.mp h
    cases hmk
    exact ⟨rfl, hmode⟩
  | writeDispose =>
    obtain ⟨rfl, h⟩ := h
    obtain ⟨mode', hmode, hmk⟩ := Res.map_eq_ok.mp h
    cases hmk
    exact ⟨rfl, hmode⟩

theorem sample_of_means {call : Call} {request : Service.Request} {op : WriteOp} {wrapper : SampleWrapper}
    (hpublished : published call = some (op, wrapper)) (hmeans : call.Means request) :
    ∃ mode, request = .write op mode ∧ mode.sample = wrapper := by
  cases call with
  | publish op' writerID keyBytes data =>
    cases hpublished
    cases request with
    | write op'' mode =>
      obtain ⟨rfl, hsame⟩ := hmeans
      cases mode with
      | writerId id keyBytes' data' =>
        obtain ⟨-, -, rfl, rfl⟩ := hsame
        exact ⟨_, rfl, rfl⟩
      | topicName topicName typeName qos keys data' =>
        exact absurd hsame.1 (by simp [Remote.writerMode, GoCodec.writeTopicMode, GoCodec.writeWriterMode])
    | _ => exact absurd hmeans id
  | write op' topicName typeName qos keys data =>
    cases hpublished
    cases request with
    | write op'' mode =>
      obtain ⟨rfl, hsame⟩ := hmeans
      cases mode with
      | writerId id keyBytes' data' =>
        exact absurd hsame.1 (by simp [Remote.topicMode, GoCodec.writeTopicMode, GoCodec.writeWriterMode])
      | topicName topicName' typeName' qos' keys' data' =>
        obtain ⟨-, -, -, -, -, rfl⟩ := hsame
        exact ⟨_, rfl, rfl⟩
    | _ => exact absurd hmeans id
  | _ => cases hpublished

theorem writeRequest_call {call : Call} {op : WriteOp} {wrapper : SampleWrapper} {r : UInt32} {maxPayloadSize : Nat}
    (hpublished : published call = some (op, wrapper)) (hr : r ≠ 0) (hlimits : call.WithinLimits)
    (hmax : call.sent.payload.length ≤ maxPayloadSize) (hsize : call.sent.payload.length < 2 ^ 32) :
    ∃ mode, writeRequest maxPayloadSize (call.frame r) = some (r, op, mode) ∧ mode.sample = wrapper := by
  obtain ⟨request, hmeans, hrequest⟩ := Remote.request_of_call hlimits hsize
  obtain ⟨mode, rfl, hsample⟩ := sample_of_means hpublished hmeans
  obtain ⟨header, hcheck, htype, hid⟩ := Remote.checkFrame_buildMessage call.sent.msgType hr hmax hsize
  obtain ⟨hop, hmode⟩ := parseWriteMode_of_request hrequest
  refine ⟨mode, ?_, hsample⟩
  unfold writeRequest
  rw [Remote.frame_eq, hcheck]
  simp [htype, hop, hmode, hid]

/-! ## From end to end -/

/-- **A payload arrives.** If the bridge acknowledges a call, then DDS has been handed the payload and the key bytes of
the call. However DDS carries the payload to a reader, of this bridge or of another, and whatever the info of the sample
says of its instance, a client that is sent the sample has that payload, if and only if the ranges lose nothing of it. -/
theorem payload_arrives (t : Traced BridgeInner DdsCall) (dds : DdsReturns) (sid : UInt64) {call : Call} {op : WriteOp}
    {wrapper : SampleWrapper} {r : UInt32} {maxPayloadSize : Nat}
    (hpublished : published call = some (op, wrapper)) (hr : r ≠ 0) (hlimits : call.WithinLimits)
    (hmax : call.sent.payload.length ≤ maxPayloadSize) (hsize : call.sent.payload.length < 2 ^ 32)
    (hack : Acknowledged dds sid (call.frame r) maxPayloadSize r t.state) :
    (∃ writer : DdsWriter, Calls.sends (Calls.act t (.bridge (.frame dds sid (call.frame r) maxPayloadSize))) =
      Calls.sends t ++ [.send op writer.handle.handle wrapper (dds.code op)]) ∧
    ∀ (st : OpaqueSertype) (kind : SerdataKind) (cut : List UInt64) (sd : OpaqueSerdata),
      Delivered (sdFromSample st kind wrapper) cut sd →
      ∀ inner, BridgeReachable inner → ∀ readerId reader, inner.readers.readers.lookup readerId = some reader →
      12 + (utf8 reader.topic.topicName).length + wrapper.data.length < 2 ^ 32 →
      ∀ taken : TakenSample, taken.data = sd.payload → ∀ sample, reader.receive taken = some sample →
      ∀ pending, (recvFrame pending (sampleToMessage sample) = .data { messageOf sample with data := wrapper.data } ↔
        NoneLost wrapper.data 0 cut) := by
  obtain ⟨mode, hrequest, rfl⟩ := writeRequest_call hpublished hr hlimits hmax hsize
  refine ⟨?_, fun st kind cut sd hsd inner hinner readerId reader hreader hfits taken htaken sample hsample pending => ?_⟩
  · have hfinds : Calls.Finds (fun _ _ => True) dds sid r mode t := Calls.finds_some mode
    obtain ⟨writer, -, hsends⟩ := ((Calls.sends_writeFrame hfinds hrequest).2.mp hack).2
    exact ⟨writer, hsends⟩
  · obtain ⟨hlen, hiff⟩ := hsd.payload_iff
    have hpayload : (sdFromSample st kind mode.sample).payload = mode.sample.data := rfl
    have htopic : sample.topicName = reader.topic.topicName := DdsReader.topicName_of_receive hsample
    have hdata : sample.data = sd.payload := by
      rw [← htaken]
      unfold DdsReader.receive at hsample
      dsimp only at hsample
      split at hsample
      · cases hsample
        rfl
      · cases hsample
    have hstring : StringFits sample.topicName := htopic ▸ hinner.topicsFit.readers _ _ hreader
    have hshort : 12 + (utf8 sample.topicName).length + sample.data.length < 2 ^ 32 := by
      rw [htopic, hdata, hlen, hpayload]
      exact hfits
    rw [recvFrame_sampleToMessage pending hstring hshort, ← hpayload, ← hiff, ← hdata]
    simp [messageOf]

/-- A payload of three bytes that is carried in one range of four: the one range is all zeros. -/
theorem payload_arrives_cut_off :
    let t := Calls.start 1 idleBridge.config
    let call : Call := .write .write [0x61] [0x54] [] [] [7, 8, 9]
    let wrapper := SampleWrapper.fromBytes [7, 8, 9] []
    let st : OpaqueSertype := ⟨[84], true, []⟩
    let taken : TakenSample := ⟨1, true, 5, (sdFromSerIov st .data [[0, 0, 0, 0]] 3).payload⟩
    (∃ writer : DdsWriter, Calls.sends (Calls.act t (.bridge (.frame ddsSucceeds 1 (call.frame 7) 1024))) =
      Calls.sends t ++ [.send .write writer.handle.handle wrapper 0]) ∧
    ∃ reader sample, GoDelivery.subscribedBridge.readers.readers.lookup 1 = some reader ∧
      reader.receive taken = some sample ∧
      recvFrame (fun _ => false) (sampleToMessage sample) ≠ .data { messageOf sample with data := [7, 8, 9] } := by
  intro t call wrapper st taken
  have hlimits : call.WithinLimits :=
    ⟨⟨by decide, ['a'], rfl⟩, ⟨by decide, ['T'], rfl⟩, List.forall_mem_nil _, by decide, by decide, by decide⟩
  have hack : Acknowledged ddsSucceeds 1 (call.frame 7) 1024 7 t.state := by
    have hok : (processBinaryFrame ddsSucceeds 1 (call.frame 7) 1024).eval t.state = .ok [okResponse 7 []] := by
      decide +kernel
    obtain ⟨inner', h⟩ := Prog.eval_eq_ok.mp hok
    exact ⟨[], inner', h⟩
  obtain ⟨reader, hreader, htopic⟩ := GoDelivery.subscribedBridge_reader
  have hpublished : published call = some (.write, wrapper) := rfl
  have h := payload_arrives t ddsSucceeds 1 hpublished (by decide) hlimits (by decide) (by decide) hack
  refine ⟨h.1, reader, _, hreader, rfl, fun hdata => ?_⟩
  have hsd : Delivered (sdFromSample st .data wrapper) [4] (sdFromSerIov st .data [[0, 0, 0, 0]] 3) :=
    .iovecs st .data (by decide) (by decide) rfl
  have hfits : 12 + (utf8 reader.topic.topicName).length + wrapper.data.length < 2 ^ 32 := by
    rw [htopic.1]
    decide
  obtain ⟨hlost, -⟩ := (h.2 st .data [4] _ hsd _ GoDelivery.subscribedBridge_reachable 1 reader hreader hfits taken rfl _
    rfl _).mp hdata
  revert hlost
  decide

end PayloadPath

end DdsBridge
