import Verbifrost.ConnectXService
import Verbifrost.Mlx5MemoryRegion
import Verbifrost.Mlx5QueuePair

/-!
# Where the callers of `mlx5_cmd_exec` find their answers

`mlx5_cmd_exec` copies the output mailbox from byte 8 on, and each of its seven
callers skips eight more bytes of what it got. Every documented output layout
puts the answer at byte 8 of the mailbox.
-/

namespace Verbifrost.Mlx5ResponseLayout

open Verbifrost.ByteMemory Verbifrost.Mlx5Registers Verbifrost.ReferenceHeap
open Verbifrost.IbVerbs Verbifrost.Mlx5CmdExec Verbifrost.Mlx5Verbs Verbifrost.Mlx5QueuePair
open Verbifrost.Mlx5MemoryRegion Verbifrost.ConnectXService

set_option autoImplicit false

section Accepted

variable (mailbox : Bytes) (poll : Nat) (inTime : poll < pollLimit)
  (accepted : mailbox mlx5MboxStatusOff = mlx5CmdStatOk)

include inTime accepted

theorem alloc_pd_extracts (pd : IbPd) (queue : CmdQueue) :
    (mlx5IbAllocPd (answerAt poll 0#8 mailbox) pd queue).pd.localDmaLkey = loadBE mailbox 16 32 := by
  have replied := exec_accepted allocPdCall queue poll mailbox inTime accepted
  have word := response_word (show 32 / 8 * 8 = 32 by decide) allocPdCall zeroBytes mailbox rfl 8
    (by decide)
  simp only [mlx5IbAllocPd, replied]
  exact word

theorem create_cq_extracts (ring : DmaBuffer) (cq : IbCq) (queue : CmdQueue) (heap : Heap) :
    (mlx5IbCreateCq (answerAt poll 0#8 mailbox) (some ring) cq queue heap).cq.cqe =
      loadBE mailbox 16 32 := by
  have replied := exec_accepted (createCqCall cq ring.physicalAddress) queue poll mailbox inTime
    accepted
  have word := response_word (show 32 / 8 * 8 = 32 by decide)
    (createCqCall cq ring.physicalAddress) zeroBytes mailbox rfl 8 (Nat.le_of_ble_eq_true rfl)
  simp only [mlx5IbCreateCq, replied]
  exact word

theorem create_qp_extracts (init : IbQpInitAttr) (sq rq db : DmaBuffer) (qp : Mlx5IbQp)
    (queue : CmdQueue) (heap : Heap) :
    (mlx5IbCreateQpFull (answerAt poll 0#8 mailbox) ⟨some sq, some rq, some db⟩ init qp queue
      heap).qp.qpn = loadBE mailbox 16 32 := by
  have replied := exec_accepted (createQpCall (createQpInput (allocatedQp init sq rq db heap)
    defaultWqeCnt defaultWqeCnt mlx5RecvWqeShift)) queue poll mailbox inTime accepted
  have word := response_word (show 32 / 8 * 8 = 32 by decide) (createQpCall (createQpInput
    (allocatedQp init sq rq db heap) defaultWqeCnt defaultWqeCnt mlx5RecvWqeShift)) zeroBytes mailbox
    rfl 8 (Nat.le_of_ble_eq_true rfl)
  rw [create_qp_full_allocated]
  simp only [sendCreateQp, replied]
  exact word

theorem send_enable_hca_extracts (service : ConnectXRDMA) :
    (sendEnableHCA (answerAt poll 0#8 mailbox) service).2.properties =
      ("HCAFunctionID", .number ((loadBE mailbox 16 16).setWidth 64) 16) :: service.properties := by
  have replied := exec_accepted enableHcaCall service.cmdQueue poll mailbox inTime accepted
  have word := response_word (show 16 / 8 * 8 = 16 by decide) enableHcaCall zeroBytes mailbox rfl 8
    (by decide)
  unfold loadBE at word
  simp only [sendEnableHCA, replied]
  simp [setProperty, word, loadBE]

theorem query_pages_extracts (type pagesNeeded : BitVec 16) (service : ConnectXRDMA) :
    (queryPages (answerAt poll 0#8 mailbox) type pagesNeeded service).2.1 = loadBE mailbox 16 16 := by
  have replied := exec_accepted (queryPagesCall type) service.cmdQueue poll mailbox inTime accepted
  have word := response_word (show 16 / 8 * 8 = 16 by decide) (queryPagesCall type) zeroBytes mailbox
    rfl 8 (Nat.le_of_ble_eq_true rfl)
  unfold loadBE at word
  simp only [queryPages, replied]
  simp [word, loadBE]

theorem query_hca_cap_extracts (service : ConnectXRDMA) :
    (queryHcaCap (answerAt poll 0#8 mailbox) service).2.properties =
      (publishCapabilities (window mailbox 16) service).properties := by
  have replied := exec_accepted queryHcaCapCall service.cmdQueue poll mailbox inTime accepted
  have portByte := response_byte queryHcaCapCall zeroBytes mailbox rfl (8 + 0x61) (by decide)
  have qpByte := response_byte queryHcaCapCall zeroBytes mailbox rfl (8 + 0x18) (by decide)
  have ports : numPortsOf (window ((copyResponse queryHcaCapCall mailbox).getD zeroBytes) 8) =
      numPortsOf (window mailbox 16) := by
    simp only [numPortsOf, window, portByte]
  have qps : logMaxQpOf (window ((copyResponse queryHcaCapCall mailbox).getD zeroBytes) 8) =
      logMaxQpOf (window mailbox 16) := by
    simp only [logMaxQpOf, window, qpByte]
  simp only [queryHcaCap, replied]
  simp [publishCapabilities, setProperty, ports, qps]

end Accepted

theorem set_width_byte_eq_iff (left right : Byte) :
    left.setWidth 64 = right.setWidth 64 ↔ left = right := by
  constructor
  · intro same
    have narrowed := congrArg (BitVec.setWidth 8) same
    simpa using narrowed
  · intro same
    rw [same]

theorem publish_capabilities_iff (left right : Bytes) (service : ConnectXRDMA) :
    (publishCapabilities left service).properties = (publishCapabilities right service).properties ↔
      numPortsOf left = numPortsOf right ∧ logMaxQpOf left = logMaxQpOf right := by
  constructor
  · intro same
    simp only [publishCapabilities, setProperty, List.cons.injEq, Prod.mk.injEq,
      PropertyValue.number.injEq, set_width_byte_eq_iff] at same
    exact ⟨same.2.2.1.2.1, same.2.1.2.1⟩
  · rintro ⟨ports, qps⟩
    simp only [publishCapabilities, setProperty, ports, qps]

/-- The arguments and the resources of one call of each caller. -/
structure Callers where
  pd : IbPd
  cq : IbCq
  cqRing : DmaBuffer
  init : IbQpInitAttr
  qp : Mlx5IbQp
  sq : DmaBuffer
  rq : DmaBuffer
  db : DmaBuffer
  regPd : IbPd
  start : BitVec 64
  length : BitVec 64
  virtAddr : BitVec 64
  accessFlags : BitVec 32
  pas : DmaBuffer
  pagesType : BitVec 16
  pagesNeeded : BitVec 16
  service : ConnectXRDMA
  queue : CmdQueue
  heap : Heap

def Callers.regArgs (callers : Callers) : RegArgs where
  pd := some callers.regPd
  start := callers.start
  length := callers.length
  virtAddr := callers.virtAddr
  accessFlags := callers.accessFlags

/-- Each caller ends up with what its documented layout puts at byte 8 of the mailbox. -/
structure ExtractsDocumented (act : DeviceAct) (mailbox : Bytes) (callers : Callers) : Prop where
  pdNumber : (mlx5IbAllocPd act callers.pd callers.queue).pd.localDmaLkey = loadBE mailbox 8 32
  cqNumber : (mlx5IbCreateCq act (some callers.cqRing) callers.cq callers.queue callers.heap).cq.cqe =
    loadBE mailbox 8 32
  qpNumber : (mlx5IbCreateQpFull act ⟨some callers.sq, some callers.rq, some callers.db⟩ callers.init
    callers.qp callers.queue callers.heap).qp.qpn = loadBE mailbox 8 32
  mkey : ∃ address mr, (mlx5IbRegUserMrFull act (some callers.pas) true callers.regArgs callers.queue
    callers.heap).result = .region address mr ∧ mr.mkey = loadBE mailbox 8 32
  functionId : (sendEnableHCA act callers.service).2.properties =
    ("HCAFunctionID", .number ((loadBE mailbox 8 16).setWidth 64) 16) :: callers.service.properties
  pages : (queryPages act callers.pagesType callers.pagesNeeded callers.service).2.1 =
    loadBE mailbox 8 16
  capabilities : (queryHcaCap act callers.service).2.properties =
    (publishCapabilities (window mailbox 8) callers.service).properties

/-- What lies eight bytes further on is the same as far as the callers look. -/
structure RepeatsAnswer (mailbox : Bytes) : Prop where
  word : ∀ index < 4, mailbox (16 + index) = mailbox (8 + index)
  ports : numPortsOf (window mailbox 16) = numPortsOf (window mailbox 8)
  qps : logMaxQpOf (window mailbox 16) = logMaxQpOf (window mailbox 8)

/-- For every content of the output mailbox that the device accepts the command with. -/
theorem extracts_documented_iff (mailbox : Bytes) (poll : Nat) (callers : Callers)
    (inTime : poll < pollLimit) (accepted : mailbox mlx5MboxStatusOff = mlx5CmdStatOk) :
    ExtractsDocumented (answerAt poll 0#8 mailbox) mailbox callers ↔ RepeatsAnswer mailbox := by
  have capabilities := query_hca_cap_extracts mailbox poll inTime accepted callers.service
  have parsed := publish_capabilities_iff (window mailbox 16) (window mailbox 8) callers.service
  have words : loadBE mailbox 16 32 = loadBE mailbox 8 32 ↔
      ∀ index < 4, mailbox (16 + index) = mailbox (8 + index) := load_be_eq_iff (by decide)
  constructor
  · intro extracts
    have pd := extracts.pdNumber
    have caps := extracts.capabilities
    rw [alloc_pd_extracts mailbox poll inTime accepted] at pd
    rw [capabilities] at caps
    exact ⟨words.mp pd, (parsed.mp caps).1, (parsed.mp caps).2⟩
  · rintro ⟨word, ports, qps⟩
    have full : loadBE mailbox 16 32 = loadBE mailbox 8 32 := words.mpr word
    have half : loadBE mailbox 16 16 = loadBE mailbox 8 16 := by
      apply (load_be_eq_iff (by decide)).mpr
      intro index bound
      exact word index (by omega)
    have registered := reg_user_mr_answered poll mailbox callers.pas callers.regArgs callers.regPd
      callers.queue callers.heap inTime accepted rfl
    constructor
    · rw [alloc_pd_extracts mailbox poll inTime accepted, full]
    · rw [create_cq_extracts mailbox poll inTime accepted, full]
    · rw [create_qp_extracts mailbox poll inTime accepted, full]
    · exact ⟨_, _, registered, full⟩
    · rw [send_enable_hca_extracts mailbox poll inTime accepted, half]
    · rw [query_pages_extracts mailbox poll inTime accepted, half]
    · rw [capabilities]
      exact parsed.mpr ⟨ports, qps⟩

def sampleCallers : Callers where
  pd := samplePd
  cq := ⟨0, 0, 0, 0, 0, 64⟩
  cqRing := sampleBuffer
  init := ⟨none, none, .rc⟩
  qp := zeroQp
  sq := sampleBuffer
  rq := sampleBuffer
  db := sampleBuffer
  regPd := samplePd
  start := 0x4000
  length := 4096
  virtAddr := 0x4000
  accessFlags := 1
  pas := sampleBuffer
  pagesType := 1
  pagesNeeded := 0
  service := newService zeroBytes
  queue := blankQueue
  heap := emptyHeap

def repeatedMailbox : Bytes := store (store zeroBytes 8 (byteSwap 7#32)) 16 (byteSwap 7#32)

theorem repeated_mailbox_extracts :
    RepeatsAnswer repeatedMailbox ∧
      ExtractsDocumented (answerAt 0 0#8 repeatedMailbox) repeatedMailbox sampleCallers := by
  have repeats : RepeatsAnswer repeatedMailbox := ⟨by decide, by decide, by decide⟩
  exact ⟨repeats, (extracts_documented_iff repeatedMailbox 0 sampleCallers (by decide) rfl).mpr repeats⟩

/-- The device assigns PD 7 and the driver takes down PD 0. -/
theorem pd_seven_taken_for_zero :
    loadBE (store zeroBytes 8 (byteSwap 7#32)) 8 32 = 7 ∧
      (mlx5IbAllocPd (answerAt 0 0#8 (store zeroBytes 8 (byteSwap 7#32))) samplePd
        blankQueue).pd.localDmaLkey = 0 ∧
      ¬ExtractsDocumented (answerAt 0 0#8 (store zeroBytes 8 (byteSwap 7#32)))
        (store zeroBytes 8 (byteSwap 7#32)) sampleCallers := by
  have extracted := alloc_pd_extracts (store zeroBytes 8 (byteSwap 7#32)) 0 (by decide) rfl samplePd
    blankQueue
  have zero : loadBE (store zeroBytes 8 (byteSwap 7#32)) 16 32 = 0 := by decide
  rw [zero] at extracted
  refine ⟨by decide, extracted, ?_⟩
  intro documented
  have number := documented.pdNumber
  exact absurd (extracted.symm.trans number) (by decide)

end Verbifrost.Mlx5ResponseLayout
