import FrameRunner.Common.ByteOrder

/-!
# Between a protocol and the IP layer

A protocol hands `ip_output` a payload with its addresses, and gets from
`ip_stack_receive` a packet whose `data` is the payload and whose IPv4 header
lies in the headroom before it. Both are an `IpDatagram`.
-/

namespace FrameRunner

/-- An IPv4 payload with the header fields that the protocols read. -/
structure IpDatagram where
  srcIp : UInt32
  dstIp : UInt32
  protocol : UInt8
  data : List UInt8
  deriving DecidableEq, Repr

/-- What one call of a protocol sees of the simulator: the time of its
    scheduler, if it has one, and whether `ip_output` takes the packet that the
    call hands to it. -/
structure IpEnv where
  now : Option UInt64 := some 0
  ipOk : Bool := true
  deriving DecidableEq, Repr

end FrameRunner
