import ItchFeedHandler.Common.Types

/-!
# Link-layer framing

`dpdk/config.hpp`: the network header sizes, the packed Ethernet, IPv4 and UDP headers, the IP
header length read from the untrusted `version_ihl` byte, and the protocol constants. The DPDK
`Config` structure (cores, pools, rings, multicast group) configures the environment only; no
modelled function reads it, and it is left out.

A header is the byte list from its first byte on; a field is read at its `offsetof`.
-/

namespace ItchFeedHandler

namespace Dpdk

open Endian

namespace HeaderSizes

/-- `header_sizes::ETHERNET` -/
def ETHERNET : Nat := 14

/-- `header_sizes::IPV4`: without options -/
def IPV4 : Nat := 20

/-- `header_sizes::UDP` -/
def UDP : Nat := 8

/-- `header_sizes::MOLDUDP64` -/
def MOLDUDP64 : Nat := 20

/-- `header_sizes::TOTAL_MIN`: the composite header of a packet whose IPv4 header has no
options. -/
def TOTAL_MIN : Nat := ETHERNET + IPV4 + UDP + MOLDUDP64

end HeaderSizes

/-- `sizeof(EthernetHeader)` -/
def sizeofEthernetHeader : Nat := 14

/-- `sizeof(UDPHeader)` -/
def sizeofUDPHeader : Nat := 8

/-- `offsetof(EthernetHeader, ether_type)` -/
def EthernetHeader.etherType : Nat := 12

/-- `offsetof(IPv4Header, version_ihl)` -/
def IPv4Header.versionIhl : Nat := 0

/-- `offsetof(IPv4Header, protocol)` -/
def IPv4Header.protocol : Nat := 9

/-- `IP_PROTO_UDP` -/
def IP_PROTO_UDP : UInt8 := 17

/-- `ETHER_TYPE_IPV4` -/
def ETHER_TYPE_IPV4 : UInt16 := 0x0800

/-- A packed `uint16_t` member at byte `off`, as the host reads it. -/
def u16At (hdr : List UInt8) (off : Nat) : UInt16 := UInt16.ofNat (loadLE (hdr.drop off) 2)

/-- `get_ip_header_length`: the IHL nibble times four, in bytes (`uint8_t`). -/
def getIpHeaderLength (ip : List UInt8) : UInt8 := (byteAt ip IPv4Header.versionIhl &&& 0x0F) * 4

/-- The IP header length is four times the low nibble of `version_ihl`, so at most `60`: the
`uint8_t` product never wraps. -/
theorem getIpHeaderLength_toNat (ip : List UInt8) :
    (getIpHeaderLength ip).toNat = 4 * ((byteAt ip IPv4Header.versionIhl).toNat % 16) := by
  unfold getIpHeaderLength
  generalize byteAt ip IPv4Header.versionIhl = b
  have h : b.toNat < 256 := b.toNat_lt_size
  show ((b.toBitVec &&& (15 : UInt8).toBitVec) * (4 : UInt8).toBitVec).toNat =
    4 * (b.toBitVec.toNat % 16)
  rw [BitVec.toNat_mul, BitVec.toNat_and]
  show ((b.toBitVec.toNat &&& 2 ^ 4 - 1) * 4) % 2 ^ 8 = _
  rw [Nat.and_pow_two_sub_one_eq_mod]
  omega

end Dpdk

end ItchFeedHandler
