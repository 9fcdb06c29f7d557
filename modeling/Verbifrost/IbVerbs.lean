import Verbifrost.ByteMemory

/-!
# Objects of the RDMA core

The structures of `rdma/ib_verbs.h` that the verbs read or write. A pointer
the driver follows is the object behind it, `none` for `NULL`; a pointer it
only stores is its 64-bit value.
-/

namespace Verbifrost.IbVerbs

set_option autoImplicit false

inductive IbQpState where
  | reset
  | init
  | rtr
  | rts
  | sqd
  | sqe
  | err
  | unknown
deriving DecidableEq, Repr

inductive IbQpType where
  | smi
  | gsi
  | rc
  | uc
  | ud
  | rawPacket
  | xrcIni
  | xrcTgt
  | max
deriving DecidableEq, Repr

def ibAccessLocalWrite : BitVec 32 := 1
def ibAccessRemoteWrite : BitVec 32 := 1 <<< 1
def ibAccessRemoteRead : BitVec 32 := 1 <<< 2

structure IbPd where
  device : BitVec 64
  uobject : BitVec 64
  localDmaLkey : BitVec 32
  flags : BitVec 32
  res : BitVec 32

/-- `cqe` is a signed `int`. -/
structure IbCq where
  device : BitVec 64
  uobject : BitVec 64
  compHandler : BitVec 64
  eventHandler : BitVec 64
  cqContext : BitVec 64
  cqe : BitVec 32

structure IbMr where
  device : BitVec 64
  pd : IbPd
  uobject : BitVec 64
  lkey : BitVec 32
  rkey : BitVec 32
  iova : BitVec 64
  length : BitVec 64

structure IbQp where
  device : BitVec 64
  pd : Option IbPd
  sendCq : Option IbCq
  recvCq : Option IbCq
  uobject : BitVec 64
  qpContext : BitVec 64
  qpNum : BitVec 32
  maxInlineData : BitVec 32
  state : IbQpState
  qpType : IbQpType

/-- The fields of `ib_qp_init_attr` that creation looks at. -/
structure IbQpInitAttr where
  sendCq : Option IbCq
  recvCq : Option IbCq
  qpType : IbQpType

def zeroIbQp : IbQp where
  device := 0
  pd := none
  sendCq := none
  recvCq := none
  uobject := 0
  qpContext := 0
  qpNum := 0
  maxInlineData := 0
  state := .reset
  qpType := .smi

end Verbifrost.IbVerbs
