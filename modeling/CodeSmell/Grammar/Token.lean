/-
Tokens.

The token at a place is found without regard to what came before it, so a reader
can look ahead as far as it likes. What depends on the context is left to the
reader: a slash may begin a regular expression, a closing brace may go on with a
template, and angle brackets are tokens of one character that an operator may
join. What begins no token is malformed, as is a token that does not end; a
reader refuses it only when it gets there.
-/
import CodeSmell.Grammar.Source

set_option autoImplicit false

namespace CodeSmell.Grammar

/-- What a token is. -/
inductive TokenKind where
  /-- A name or a keyword. -/
  | word
  /-- A name that holds an escape, which makes it no keyword. -/
  | escapedWord
  /-- A name behind a `#`. -/
  | privateName
  | number
  | string
  /-- The back quote that opens a template. -/
  | template
  /-- Punctuation or an operator. -/
  | sign
  | malformed
  | finish
  deriving DecidableEq, Repr, Inhabited

/-- A token, with the spelling of words and signs, and what stood in front of it. -/
structure Token where
  kind : TokenKind
  start : Nat
  stop : Nat
  text : String
  /-- A line ended between the token before and this one. -/
  afterLine : Bool
  /-- The comments in front of the token, the last one first. -/
  comments : List (Nat × Nat)
  deriving Repr, Inhabited

namespace Token

/-- The token is a sign. -/
def isSign (t : Token) (text : String) : Bool := t.kind == .sign && t.text == text

/-- The token is a word, written without escapes. -/
def isWord (t : Token) (text : String) : Bool := t.kind == .word && t.text == text

/-- The token is one of several words. -/
def isWordOf (t : Token) (texts : List String) : Bool :=
  t.kind == .word && texts.contains t.text

/-- The token is one of several signs. -/
def isSignOf (t : Token) (texts : List String) : Bool :=
  t.kind == .sign && texts.contains t.text

/-- The token is spelled like a name, keyword or not. -/
def isNameLike (t : Token) : Bool := t.kind == .word || t.kind == .escapedWord

end Token

namespace Source

/-! ## What stands between tokens -/

/-- The place after the `*/` that ends a block comment. -/
def blockCommentEnd? (s : Source) (i : Nat) : Option Nat :=
  if h : i < s.chars.size then
    if s.startsWith i ['*', '/'] then some (i + 2) else s.blockCommentEnd? (i + 1)
  else none
termination_by s.chars.size - i

/-- Where the blanks and comments from a place on end, whether a line ends among
them, and the comments. A block comment that does not end is not skipped. The
number bounds the steps. -/
def skipBlanks (s : Source) : Nat → Nat → Bool → List (Nat × Nat) → Nat × Bool × List (Nat × Nat)
  | 0, i, afterLine, comments => (i, afterLine, comments)
  | steps + 1, i, afterLine, comments =>
    match s.char? i with
    | none => (i, afterLine, comments)
    | some c =>
      if isSpace c then s.skipBlanks steps (i + 1) (afterLine || endsLine c) comments
      else if s.startsWith i ['/', '/'] then
        let stop := s.skipWhile (fun c => !endsLine c) i
        s.skipBlanks steps stop afterLine ((i, stop) :: comments)
      else if s.startsWith i ['/', '*'] then
        match s.blockCommentEnd? (i + 2) with
        | none => (i, afterLine, comments)
        | some stop =>
          let hasLine := (s.chars.extract i stop).any endsLine
          s.skipBlanks steps stop (afterLine || hasLine) ((i, stop) :: comments)
      else (i, afterLine, comments)

/-! ## Numbers -/

/-- The end of digits, with single underscores between them. -/
def digitsEnd (s : Source) (isDigit : Char → Bool) (i : Nat) : Nat :=
  if h : i < s.chars.size then
    if isDigit s.chars[i] then
      if s.charIs (i + 1) (· == '_') && s.charIs (i + 2) isDigit then
        s.digitsEnd isDigit (i + 2)
      else s.digitsEnd isDigit (i + 1)
    else i
  else i
termination_by s.chars.size - i

/-- The end of an exponent that may stand at a place. -/
def exponentEnd (s : Source) (i : Nat) : Nat :=
  if s.charIs i (fun c => c == 'e' || c == 'E') then
    let digits := if s.charIs (i + 1) (fun c => c == '+' || c == '-') then i + 2 else i + 1
    let stop := s.digitsEnd Char.isDigit digits
    if stop = digits then i else stop
  else i

/-- The end of a fraction and an exponent that may stand after the whole part. -/
def fractionEnd (s : Source) (i : Nat) : Nat :=
  if s.charIs i (· == '.') then s.exponentEnd (s.digitsEnd Char.isDigit (i + 1))
  else s.exponentEnd i

/-- The place after an `n`, if one stands there. -/
def bigEnd (s : Source) (i : Nat) : Nat := if s.charIs i (· == 'n') then i + 1 else i

/-- The digits between two places are octal, behind a needless zero. -/
def isLegacyOctal (s : Source) (i stop : Nat) : Bool :=
  s.charIs i (· == '0') && decide (i + 1 < stop)
    && (s.chars.extract i stop).all fun c => isOctalDigit c || c == '_'

/-- The end of a number that begins at a place. A whole part of octal digits with a
needless zero in front has neither fraction nor exponent. -/
def numberEnd (s : Source) (i : Nat) : Nat :=
  let radix (isDigit : Char → Bool) : Nat := s.bigEnd (s.digitsEnd isDigit (i + 2))
  let after (c d : Char) : Bool :=
    s.charIs i (· == '0') && s.charIs (i + 1) (fun x => x == c || x == d)
  if after 'x' 'X' then radix isHexDigit
  else if after 'o' 'O' then radix isOctalDigit
  else if after 'b' 'B' then radix isBinaryDigit
  else if s.charIs i (· == '.') then s.fractionEnd i
  else
    let whole := s.digitsEnd Char.isDigit i
    if s.charIs whole (· == 'n') then whole + 1
    else if s.isLegacyOctal i whole then whole
    else s.fractionEnd whole

/-- The digits of a number with a radix are there. -/
def numberIsWhole (s : Source) (i stop : Nat) : Bool :=
  let letter := s.charIs (i + 1) fun c => ['x', 'X', 'o', 'O', 'b', 'B'].contains c
  !(s.charIs i (· == '0') && letter && decide (stop ≤ i + 2)) && !s.charIs stop isNameChar

/-! ## Strings and names -/

/-- The place after the digits of a code point, which are four, or any number of them
between braces. -/
def unicodeEscapeEnd? (s : Source) (i : Nat) : Option Nat :=
  if s.charIs i (· == '{') then
    let stop := s.skipWhile isHexDigit (i + 1)
    if decide (i + 1 < stop) && s.charIs stop (· == '}') then some (stop + 1) else none
  else if (List.range 4).all fun k => s.charIs (i + k) isHexDigit then some (i + 4)
  else none

/-- The place after an escape that begins with the backslash at a place. -/
def escapeEnd? (s : Source) (i : Nat) : Option Nat :=
  match s.char? (i + 1) with
  | none => none
  | some 'x' =>
    if s.charIs (i + 2) isHexDigit && s.charIs (i + 3) isHexDigit then some (i + 4) else none
  | some 'u' => s.unicodeEscapeEnd? (i + 2)
  | some '\r' => some (if s.charIs (i + 2) (· == '\n') then i + 3 else i + 2)
  | some _ => some (i + 2)

/-- The place after the quote that ends a string. The number bounds the steps. -/
def stringEnd? (s : Source) (quote : Char) : Nat → Nat → Option Nat
  | 0, _ => none
  | steps + 1, i =>
    match s.char? i with
    | none => none
    | some c =>
      if c == quote then some (i + 1)
      else if c == '\\' then (s.escapeEnd? i).bind (s.stringEnd? quote steps)
      else if c == '\n' || c == '\r' then none
      else s.stringEnd? quote steps (i + 1)

/-- The end of a name, and whether it holds an escape. The number bounds the steps. -/
def nameEnd (s : Source) : Nat → Nat → Bool → Nat × Bool
  | 0, i, escaped => (i, escaped)
  | steps + 1, i, escaped =>
    let i := s.skipWhile isNameChar i
    if s.startsWith i ['\\', 'u'] then
      match s.unicodeEscapeEnd? (i + 2) with
      | some j => s.nameEnd steps j true
      | none => (i, escaped)
    else (i, escaped)

/-! ## Signs -/

/-- The signs that begin with a character, longer ones first. -/
def signs (c : Char) : List String :=
  match c with
  | '=' => ["===", "=>", "==", "="]
  | '!' => ["!==", "!=", "!"]
  | '+' => ["++", "+=", "+"]
  | '-' => ["--", "-=", "-"]
  | '*' => ["**=", "**", "*=", "*"]
  | '/' => ["/=", "/"]
  | '%' => ["%=", "%"]
  | '&' => ["&&=", "&&", "&=", "&"]
  | '|' => ["||=", "||", "|=", "|"]
  | '^' => ["^=", "^"]
  | '?' => ["??=", "??", "?.", "?"]
  | '.' => ["...", "."]
  | c => if [':', ';', '@', ',', '<', '>', '~', '(', ')', '[', ']', '{', '}'].contains c
    then [String.singleton c] else []

/-- The sign at a place. A question mark and a point before a digit are two signs. -/
def sign? (s : Source) (i : Nat) : Option String :=
  match s.char? i with
  | none => none
  | some c => (signs c).find? fun sign =>
    s.startsWith i sign.toList && !(sign == "?." && s.charIs (i + 2) Char.isDigit)

/-- The longest of several signs that stands at a place. -/
def longest? (s : Source) (i : Nat) (signs : List String) : Option String :=
  signs.find? fun sign => s.startsWith i sign.toList

/-! ## The token at a place -/

/-- The token that begins at a place with the character `c`, without what stood in
front of it. -/
def bareToken (s : Source) (i : Nat) (c : Char) : Token :=
  let token (kind : TokenKind) (stop : Nat) (text : String) : Token :=
    { kind := kind, start := i, stop := stop, text := text, afterLine := false, comments := [] }
  if isNameStart c || s.startsWith i ['\\', 'u'] then
    let (stop, escaped) := s.nameEnd (s.size + 1) i false
    if stop ≤ i then token .malformed (i + 1) ""
    else if escaped then token .escapedWord stop (s.slice i stop)
    else token .word stop (s.slice i stop)
  -- A point begins a number only in front of a digit.
  else if c.isDigit || (c == '.' && s.charIs (i + 1) Char.isDigit) then
    let stop := s.numberEnd i
    token (if s.numberIsWhole i stop then .number else .malformed) stop ""
  else if c == '"' || c == '\'' then
    match s.stringEnd? c (s.size + 1) (i + 1) with
    | some stop => token .string stop ""
    | none => token .malformed (i + 1) ""
  else if c == '`' then token .template (i + 1) ""
  else if c == '#' then
    if s.charIs (i + 1) isNameStart then
      token .privateName (s.nameEnd (s.size + 1) (i + 1) false).1 ""
    else token .malformed (i + 1) ""
  else
    match s.sign? i with
    | some sign => token .sign (i + sign.length) sign
    | none => token .malformed (i + 1) ""

/-- The first token from a place on. -/
def tokenAt (s : Source) (i : Nat) : Token :=
  let (start, afterLine, comments) := s.skipBlanks (s.size + 1) i false []
  let token :=
    match s.char? start with
    | none =>
      { kind := .finish, start := start, stop := start, text := "", afterLine := false
        comments := [] : Token }
    | some c =>
      -- A comment that ends would have been skipped.
      if s.startsWith start ['/', '*'] then
        { kind := .malformed, start := start, stop := start + 1, text := "", afterLine := false
          comments := [] : Token }
      else s.bareToken start c
  { token with afterLine := afterLine, comments := comments }

/-- The place where the program begins: after a byte order mark and a line that names
an interpreter. -/
def beginning (s : Source) : Nat :=
  let i := if s.charIs 0 (· == '\ufeff') then 1 else 0
  if s.startsWith i ['#', '!'] then s.skipWhile (fun c => !endsLine c) i else i

/-! ## Regular expressions -/

/-- The place of the slash that ends a regular expression; inside a class of
characters a slash ends nothing. The number bounds the steps. -/
def regexBodyEnd? (s : Source) : Nat → Nat → Bool → Option Nat
  | 0, _, _ => none
  | steps + 1, i, inClass =>
    match s.char? i with
    | none => none
    | some c =>
      if endsLine c then none
      else if c == '\\' then
        if s.charIs (i + 1) (fun d => !endsLine d) then s.regexBodyEnd? steps (i + 2) inClass
        else none
      else if c == '[' then s.regexBodyEnd? steps (i + 1) true
      else if c == ']' then s.regexBodyEnd? steps (i + 1) false
      else if c == '/' && !inClass then some i
      else s.regexBodyEnd? steps (i + 1) inClass

/-- The place of the slash that ends a regular expression which begins with the slash at
a place, and the place after its flags, which are small letters. -/
def regexEnd? (s : Source) (i : Nat) : Option (Nat × Nat) := do
  let slash ← s.regexBodyEnd? (s.size + 1) (i + 1) false
  let stop := s.skipWhile Char.isLower (slash + 1)
  if s.charIs stop isNameChar then none else some (slash, stop)

end Source

end CodeSmell.Grammar
