import Verbifrost.ByteMemory

/-!
# Constants of the command interface

The part of `mlx5_registers.h` that the modelled functions read, under the
header's names, and the IOKit return codes the driver distinguishes. Codes
that IOKit itself hands back and the driver only passes on are `other`.
-/

namespace Verbifrost.Mlx5Registers

open Verbifrost.ByteMemory

set_option autoImplicit false

inductive IOReturn where
  | success
  | error
  | noMemory
  | noResources
  | notReady
  | timeout
  | other (code : Nat)
deriving DecidableEq, Repr

def mlx5CmdqLogSizeShift : Nat := 16
def mlx5CmdqLogSizeMask : BitVec 32 := 0x1F
def mlx5CmdqLogStrideShift : Nat := 8
def mlx5CmdqLogStrideMask : BitVec 32 := 0x1F

def mlx5InitSegOffset : BitVec 64 := 0x1000

def mlx5IsegCmdqParams : Nat := 0x010
def mlx5IsegCmdqAddrL : Nat := 0x014
def mlx5IsegCmdqAddrH : Nat := 0x018
def mlx5IsegCmdDoorbell : Nat := 0x01C
def mlx5IsegInitializingBit : BitVec 32 := 1 <<< 31

def mlx5CmdOwnerSw : Byte := 0x0
def mlx5CmdOwnerHw : Byte := 0x1

def mlx5CmdDeliveryStatOk : Byte := 0x00
def mlx5CmdStatOk : Byte := 0x00

def mlx5CmdEntrySize : Nat := 64
def mlx5CmdMailboxSize : BitVec 32 := 4096

def mlx5MboxOpcodeOff : Nat := 0x00
def mlx5MboxUidOff : Nat := 0x02
def mlx5MboxOpModOff : Nat := 0x06
def mlx5MboxStatusOff : Nat := 0x00

def mlx5CmdOpQueryHcaCap : BitVec 16 := 0x100
def mlx5CmdOpInitHca : BitVec 16 := 0x103
def mlx5CmdOpEnableHca : BitVec 16 := 0x104
def mlx5CmdOpQueryPages : BitVec 16 := 0x107
def mlx5CmdOpCreateMkey : BitVec 16 := 0x200
def mlx5CmdOpDestroyMkey : BitVec 16 := 0x201
def mlx5CmdOpCreateCq : BitVec 16 := 0x400
def mlx5CmdOpDestroyCq : BitVec 16 := 0x401
def mlx5CmdOpCreateQp : BitVec 16 := 0x500
def mlx5CmdOpModifyQp : BitVec 16 := 0x501
def mlx5CmdOpDestroyQp : BitVec 16 := 0x502

def mlx5CmdUidDriver : BitVec 16 := 0x0

def mlx5MaxCmdEntries : BitVec 32 := 32
def mlx5CmdTimeoutMs : Nat := 60000

end Verbifrost.Mlx5Registers
