import NamedData.Time.Duration

/-!
# Configuration

The limits and defaults that packets are read and written with.
-/

namespace NamedData

/-- Limits and defaults for packets. -/
structure PacketConfig where
  /-- The number of bytes that an input may have. -/
  maxPacketSize : UInt64 := 8800
  /-- The number of bytes of a nonce that is made up. -/
  nonceLength : UInt64 := 4
  /-- The lifetime of an Interest that does not set one, in milliseconds. -/
  defaultLifetimeMillis : UInt64 := 4000
  deriving DecidableEq, Repr

namespace PacketConfig

/-- The lifetime of an Interest that does not set one. -/
def defaultLifetime (config : PacketConfig) : Time.Duration :=
  .ofMillis config.defaultLifetimeMillis

end PacketConfig

/-- Why a configuration is refused. -/
inductive ConfigError where
  /-- The text is no configuration. -/
  | parse
  /-- Nonces would be empty. -/
  | noNonce
  /-- No packet would be small enough. -/
  | noPacket
  deriving DecidableEq, Repr

/-- The error in words. For a text that is no configuration, what the JSON reader says about it follows
after a colon. -/
def ConfigError.message : ConfigError → String
  | parse => "failed to parse config"
  | noNonce => "invalid config: nonce_length must be at least 1"
  | noPacket => "invalid config: max_packet_size must be at least 1"

/-- A configuration under which nonces and packets are possible. -/
def PacketConfig.validate (config : PacketConfig) : Except ConfigError PacketConfig :=
  if config.nonceLength = 0 then .error .noNonce
  else if config.maxPacketSize = 0 then .error .noPacket
  else .ok config

end NamedData
