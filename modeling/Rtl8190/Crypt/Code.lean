import Rtl8190.Rx.Code

/-!
# What the ciphers share

A cipher gets a buffer with the frame, the length of its header and its own state. It puts its
fields between the header and the payload, or takes them out.
-/

open Rtl8190.Memory

namespace Rtl8190.Crypt

/-- A `struct sk_buff`, and what the ciphers read of its control block. -/
structure Skb where
  headroom : Nat
  data : List Byte
  tailroom : Nat
  /-- `tcb_desc->bHwSec` -/
  bHwSec : Bool
  cb0 : Byte
  deriving DecidableEq, Repr

namespace Skb

variable (skb : Skb)

def len : Nat := skb.data.length

def byte (i : Nat) : Byte := skb.data.getD i 0

def bytes (i n : Nat) : List Byte := (skb.data.drop i).take n

def frameCtl : BitVec 16 := skb.byte 1 ++ skb.byte 0

def addr2 : Addr := fun j => skb.byte (10 + j)

def seqCtl : BitVec 16 := skb.byte 23 ++ skb.byte 22

/-- `skb_push`, then the header is moved to the front and `iv` written behind it. -/
def pushIv (hdrLen : Nat) (iv : List Byte) : Skb :=
  { skb with
    headroom := skb.headroom - iv.length
    data := skb.data.take hdrLen ++ iv ++ skb.data.drop hdrLen }

/-- The header is moved over the `n` bytes behind it, then `skb_pull`. -/
def pullIv (hdrLen n : Nat) : Skb :=
  { skb with
    headroom := skb.headroom + n
    data := skb.data.take hdrLen ++ skb.data.drop (hdrLen + n) }

def put (bs : List Byte) : Skb :=
  { skb with data := skb.data ++ bs, tailroom := skb.tailroom - bs.length }

def trimEnd (n : Nat) : Skb :=
  { skb with data := skb.data.take (skb.len - n), tailroom := skb.tailroom + n }

/-- What follows the first `i` bytes is overwritten, by as many bytes. -/
def setFrom (i : Nat) (bs : List Byte) : Skb := { skb with data := skb.data.take i ++ bs }

end Skb

/-- What `get_key` returns, and what it writes. -/
structure KeyReport where
  ret : Int
  key : Option (List Byte)
  seq : Option (List Byte)
  deriving DecidableEq, Repr

end Rtl8190.Crypt
