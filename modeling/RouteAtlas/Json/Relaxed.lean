import RouteAtlas.Text.Blank

set_option autoImplicit false

namespace RouteAtlas.Json.Relaxed

inductive Mode where
  | plain
  | string
  | escaped
  | lineComment
  /-- Inside a block comment; the flag says that the last character was a star. -/
  | blockComment (star : Bool)

/-- Removes comments; a line comment keeps the line end that closes it. -/
def stripCommentsFrom : Mode → List Char → List Char
  | _, [] => []
  | .plain, '/' :: '/' :: cs => stripCommentsFrom .lineComment cs
  | .plain, '/' :: '*' :: cs => stripCommentsFrom (.blockComment false) cs
  | .plain, c :: cs => c :: stripCommentsFrom (if c = '"' then .string else .plain) cs
  | .string, c :: cs =>
    c :: stripCommentsFrom (if c = '\\' then .escaped else if c = '"' then .plain else .string) cs
  | .escaped, c :: cs => c :: stripCommentsFrom .string cs
  | .lineComment, c :: cs =>
    if c = '\n' then '\n' :: stripCommentsFrom .plain cs else stripCommentsFrom .lineComment cs
  | .blockComment star, c :: cs =>
    if star && c = '/' then stripCommentsFrom .plain cs
    else stripCommentsFrom (.blockComment (c = '*')) cs

def stripComments (text : List Char) : List Char := stripCommentsFrom .plain text

def closesNext (text : List Char) : Bool :=
  match text.find? fun c => !Text.isBlank c with
  | some c => c = '\x7d' || c = ']'
  | none => false

def stripCommasFrom : Mode → List Char → List Char
  | _, [] => []
  | .string, c :: cs =>
    c :: stripCommasFrom (if c = '\\' then .escaped else if c = '"' then .plain else .string) cs
  | .escaped, c :: cs => c :: stripCommasFrom .string cs
  | _, c :: cs =>
    if c = ',' && closesNext cs then stripCommasFrom .plain cs
    else c :: stripCommasFrom (if c = '"' then .string else .plain) cs

def stripTrailingCommas (text : List Char) : List Char := stripCommasFrom .plain text

def toPlain (text : List Char) : List Char := stripTrailingCommas (stripComments text)

end RouteAtlas.Json.Relaxed
