import StreamLabel.Unicode.Printable

/-!
# Quoted text

Text between quotes with everything that cannot be shown escaped. Single quotes are used unless the
text holds one and no double quote.
-/

namespace StreamLabel.Quoted

open Unicode

def hexDigit (n : Nat) : Char := Nat.digitChar n

/-- The last `width` hexadecimal digits of `n`. -/
def hexDigits : Nat → Nat → List Char
  | 0, _ => []
  | width + 1, n => hexDigits width (n / 16) ++ [hexDigit (n % 16)]

/-- The quote that suits a text. -/
def quoteFor (s : List Char) : Char :=
  if s.contains '\'' && !s.contains '"' then '"' else '\''

def escape (quote c : Char) : List Char :=
  if c = quote ∨ c = '\\' then ['\\', c]
  else if c = '\n' then ['\\', 'n']
  else if c = '\r' then ['\\', 'r']
  else if c = '\t' then ['\\', 't']
  else if isPrintable c then [c]
  else if c.toNat < 0x100 then '\\' :: 'x' :: hexDigits 2 c.toNat
  else if c.toNat < 0x10000 then '\\' :: 'u' :: hexDigits 4 c.toNat
  else '\\' :: 'U' :: hexDigits 8 c.toNat

def encode (s : List Char) : List Char :=
  let quote := quoteFor s
  quote :: s.flatMap (escape quote) ++ [quote]

end StreamLabel.Quoted

namespace StreamLabel

def quoted (s : String) : String := String.ofList (Quoted.encode s.toList)

/-- Bytes between quotes after the letter `b`, those outside printable ASCII escaped. -/
def quotedBytes (bytes : List UInt8) : String :=
  let cs := bytes.map fun b => Char.ofNat b.toNat
  let quote := Quoted.quoteFor cs
  let escape (c : Char) : List Char :=
    if c.toNat < 128 then Quoted.escape quote c else '\\' :: 'x' :: Quoted.hexDigits 2 c.toNat
  String.ofList ('b' :: quote :: cs.flatMap escape ++ [quote])

end StreamLabel
