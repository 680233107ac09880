/-!
# Credentials of requests

A request shows who sends it by a user name and a password in one header.  The
two are joined by a colon and written in base 64.
-/

namespace SapMonitor.Http

/-- The digits of base 64. -/
def base64Digits : List Char :=
  "ABCDEFGHIJKLMNOPQRSTUVWXYZabcdefghijklmnopqrstuvwxyz0123456789+/".toList

/-- A digit of base 64. -/
def base64Digit (n : Nat) : Char :=
  base64Digits.getD (n % 64) 'A'

/-- Bytes in base 64, filled up to groups of four. -/
def base64 : List UInt8 → List Char
  | [] => []
  | [a] =>
    let n := a.toNat * 16
    [base64Digit (n / 64), base64Digit n, '=', '=']
  | [a, b] =>
    let n := (a.toNat * 256 + b.toNat) * 4
    [base64Digit (n / 4096), base64Digit (n / 64), base64Digit n, '=']
  | a :: b :: c :: rest =>
    let n := (a.toNat * 256 + b.toNat) * 256 + c.toNat
    base64Digit (n / 262144) :: base64Digit (n / 4096) :: base64Digit (n / 64) :: base64Digit n ::
      base64 rest

/-- A user and the password that goes with the name. -/
structure Credentials where
  user : List UInt8
  password : List UInt8

/-- The credentials of two texts. -/
def Credentials.ofTexts (user password : String) : Credentials :=
  ⟨user.toUTF8.toList, password.toUTF8.toList⟩

/-- The value of the header that shows credentials. -/
def Credentials.header (c : Credentials) : String :=
  "Basic " ++ String.ofList (base64 (c.user ++ 58 :: c.password))

end SapMonitor.Http
