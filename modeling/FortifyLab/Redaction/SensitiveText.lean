import FortifyLab.Library.Regex

/-! The pattern of the record store's text redaction. -/

namespace FortifyLab.Redaction

/-- The case folding of `re.IGNORECASE` on the letters the pattern uses: four letters
outside ASCII fold to an ASCII one. -/
def fold (character : Char) : Char :=
  if 65 ≤ character.toNat ∧ character.toNat ≤ 90 then Char.ofNat (character.toNat + 32)
  else if character.toNat = 304 ∨ character.toNat = 305 then 'i'
  else if character.toNat = 383 then 's'
  else if character.toNat = 8490 then 'k'
  else character

/-- `\s`: the characters of `str.isspace`. -/
def isSpace (character : Char) : Bool :=
  let code := character.toNat
  (9 ≤ code && code ≤ 13) || (28 ≤ code && code ≤ 32) || code == 133 || code == 160 ||
    code == 5760 || (8192 ≤ code && code ≤ 8202) || code == 8232 || code == 8233 ||
    code == 8239 || code == 8287 || code == 12288

def isLetterOrDigit (character : Char) : Bool :=
  let code := (fold character).toNat
  (97 ≤ code && code ≤ 122) || (48 ≤ code && code ≤ 57)

/-- `[a-z0-9._~+/=-]`. -/
def isToken (character : Char) : Bool :=
  isLetterOrDigit character || "._~+/=-".toList.contains character

/-- `[^\s,;]`. -/
def isPathCharacter (character : Char) : Bool :=
  !isSpace character && character != ',' && character != ';'

def isSeparator (character : Char) : Bool := character == '=' || character == ':'

def keywords : List (List Char) :=
  ["password".toList, "passwd".toList, "secret".toList, "token".toList, "credential".toList,
    "authorization".toList]

open Regex in
/-- `authorization\s*:\s*`. -/
def authorizationHeader : Regex :=
  .seq (word fold "authorization".toList) (.seq (run isSpace)
    (.seq (.one (fun character => character == ':')) (run isSpace)))

open Regex in
/-- `(bearer\s+)[a-z0-9._~+/=-]+`. -/
def markedToken : Regex :=
  .seq (.group (.seq (word fold "bearer".toList) (plus isSpace))) (plus isToken)

/-- `(?:authorization\s*:\s*)?(bearer\s+)[a-z0-9._~+/=-]+`. -/
def bearerToken : Regex := .seq (.optional authorizationHeader) markedToken

open Regex in
/-- `((?:password|…|authorization)\s*[=:]\s*)\S+`; nothing reads its second group. -/
def keyedValue : Regex :=
  .seq (words fold keywords) (.seq (run isSpace) (.seq (.one isSeparator) (.seq (run isSpace)
    (plus (fun character => !isSpace character)))))

open Regex in
def keyBoundary (start : List Char) : Regex :=
  .seq (word fold start) (.seq (optional (words fold ["rsa ".toList, "ec ".toList, "openssh ".toList]))
    (word fold "private key-----".toList))

/-- `-----BEGIN … PRIVATE KEY-----.*?-----END … PRIVATE KEY-----`. -/
def privateKey : Regex :=
  .seq (keyBoundary "-----begin ".toList)
    (.seq (.many (.one (fun _ => true)) false) (keyBoundary "-----end ".toList))

open Regex in
/-- `(?<![A-Za-z0-9._-])/(?:etc|root|home|var/snap/microk8s/credentials)(?:/[^\s,;]*)?`. -/
def protectedPath : Regex :=
  .seq (.notAfter (fun character =>
      isLetterOrDigit character || "._-".toList.contains character))
    (.seq (.one (fun character => character == '/'))
      (.seq (words fold ["etc".toList, "root".toList, "home".toList,
          "var/snap/microk8s/credentials".toList])
        (optional (.seq (.one (fun character => character == '/')) (run isPathCharacter)))))

/-- `SENSITIVE_TEXT`. -/
def sensitiveText : Regex :=
  .alt bearerToken (.alt keyedValue (.alt privateKey protectedPath))

/-- `REDACTED`. -/
def redacted : List Char := "[REDACTED]".toList

/-- `_redact_text`. -/
def redactText (value : String) : String :=
  String.ofList (sensitiveText.sub redacted value.toList)

end FortifyLab.Redaction
