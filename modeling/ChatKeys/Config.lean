/-
  ChatKeys.Config

  The settings of a host, and the rule for new passwords.
-/
import ChatKeys.Key.Stored

namespace ChatKeys

open Json

/-- What a host can set. -/
structure SecurityConfig where
  /-- How keys of new hierarchies are derived. -/
  kdf : KdfParams
  /-- How long a password reset stays valid. -/
  passwordResetLifetime : Duration
  /-- The least number of characters of a new password. -/
  minPasswordLength : UInt64
deriving DecidableEq, Repr

namespace SecurityConfig

def standard : SecurityConfig where
  kdf := .standard
  passwordResetLifetime := .ofSeconds 3600
  minPasswordLength := 6

/-- Spans of time in whole seconds. -/
def durationCodec : Codec Duration where
  reader := do return Duration.ofSeconds (← Codec.uint64.reader)
  writer d := .ok (.integer d.seconds)

/-- The members of stored settings; each has its standard value when it is not
    there. -/
def record : Record (KdfParams × Duration × UInt64 × Unit) where
  name := "SecurityConfig"
  fields :=
    .cons { name := "kdf", codec := KdfParams.codec, absent := some standard.kdf } <|
    .cons { name := "password_reset_lifetime", codec := durationCodec,
            absent := some standard.passwordResetLifetime } <|
    .cons { name := "min_password_length", codec := .size,
            absent := some standard.minPasswordLength } .nil

def codec : Codec SecurityConfig :=
  record.codec (fun (kdf, lifetime, length, _) => ⟨kdf, lifetime, length⟩)
    fun c => (c.kdf, c.passwordResetLifetime, c.minPasswordLength, ())

end SecurityConfig

/-- A password has fewer characters than the settings ask for. -/
structure PasswordTooShort where
  minimum : UInt64
deriving DecidableEq, Repr

def PasswordTooShort.message (e : PasswordTooShort) : String :=
  s!"password must be at least {e.minimum.toNat} characters long"

/-- Checks a new password; its length is counted in characters. -/
def SecurityConfig.validatePassword (c : SecurityConfig) (password : String) :
    Except PasswordTooShort Unit :=
  if password.length < c.minPasswordLength.toNat then .error ⟨c.minPasswordLength⟩ else .ok ()

end ChatKeys
