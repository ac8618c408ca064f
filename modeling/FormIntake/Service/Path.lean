import FormIntake.Text.Utf8
/-!
# Paths

A path comes with percent escapes of its UTF-8 bytes, which are decoded once.
-/

namespace FormIntake.Path

def escapedByte? (high low : CodePoint) : Option Byte :=
  match high.digitValue? 16, low.digitValue? 16 with
  | some h, some l => some (h * 16 + l).toUInt8
  | _, _ => none

/-- The bytes of a path. `skip` code points still belong to an escape already decoded. -/
def bytes (skip : Nat) : Text → List Byte
  | [] => []
  | c :: rest =>
    match skip with
    | skip + 1 => bytes skip rest
    | 0 =>
      if c = CodePoint.ofChar '%' then
        match rest with
        | high :: low :: _ =>
          match escapedByte? high low with
          | some byte => byte :: bytes 2 rest
          | none => c.utf8 ++ bytes 0 rest
        | _ => c.utf8 ++ bytes 0 rest
      else c.utf8 ++ bytes 0 rest

/-- The decoded path; an empty path is the root. -/
def decode (t : Text) : Text :=
  if t.isEmpty then "/" else Text.ofUtf8 (bytes 0 t)

def isDropped (c : CodePoint) : Bool :=
  c.val == 0x09 || c.val == 0x0A || c.val == 0x0D

def isEnd (c : CodePoint) : Bool :=
  c = CodePoint.ofChar '?' || c = CodePoint.ofChar '#'

/-- A decoded path as it is logged: without tabs and line breaks, up to a question mark or a
number sign. -/
def logged (path : Text) : Text :=
  (path.filter fun c => !isDropped c).takeWhile fun c => !isEnd c

def withoutSlashes (path : Text) : Text :=
  (path.reverse.dropWhile (· = CodePoint.ofChar '/')).reverse

end FormIntake.Path
