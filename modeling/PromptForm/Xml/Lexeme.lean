import PromptForm.Xml.Fault
import PromptForm.Xml.Scan

/-!
# Lexemes outside the content

The text before and after the document element is cut into lexemes: separators, comments and
instructions, and the words and signs of declarations. What a lexeme is does not depend on where it
stands; whether it may stand there is for the grammar of the prolog to say.

## Main definitions

* `Lexeme`: the lexemes.
* `Lexeme.next`: the first lexeme of a text.

## Design notes

A lexeme that the text breaks off reaches to the end, a stray byte included. So a word before a stray
byte is no keyword, and a quoted text before one is shifted by it: the closing quote counts as a
broken part of the quoted text.
-/

namespace PromptForm

namespace Xml

/-- A sign of how often a part of a content model may come. -/
inductive Repetition where
  | once
  | optional
  | any
  | many
  deriving DecidableEq, Repr

inductive Lexeme where
  | space
  | silent
  /-- A declaration of a document, up to its end. -/
  | declaration
  /-- The beginning of a markup declaration with its keyword. -/
  | declOpen (keyword : String)
  | declClose
  | sectionOpen
  | sectionClose
  | name (text : String)
  | qualified (text : String)
  | token (text : String)
  | repeated (text : String) (count : Repetition)
  | literal (content : Symbols)
  | keyword (text : String)
  | percent
  | parameter (name : String)
  | comma
  | bar
  | bracketOpen
  | bracketClose
  | parenOpen
  /-- A closing parenthesis with a sign of repetition. -/
  | parenClose (count : Repetition)
  | element
  deriving Repr

namespace Lexeme

/-- What a stray byte behind the closing quote adds to a quoted text. -/
def shifted (quote : Symbol) : Symbols → Symbols
  | [] => []
  | s :: _ => [{ s with left := quote.left }]

/-- The rest of a quoted text of which `text` is the whole; a separator, `>`, `%` or `[` follows
it, or the end. -/
def literalBody (quote : Char) (text : Symbols) : Symbols → Scan Lexeme
  | [] => .ended
  | c :: rest =>
    if c.is quote then
      let content := text.before (c :: rest)
      match Symbols.next? rest with
      | none => .found (.literal (content ++ shifted c rest)) []
      | some (d, _) =>
        if d.isSpace || d.is '>' || d.is '%' || d.is '[' then .found (.literal content) rest
        else .bad rest
    else if c.isChar then literalBody quote text rest
    else Scan.refuse (c :: rest)

def quotedText (quote : Char) (s : Symbols) : Scan Lexeme :=
  literalBody quote s s

/-- A markup declaration's keyword, after the exclamation mark. -/
def declStart (s : Symbols) : Scan Lexeme :=
  match s.next? with
  | none => .ended
  | some (c, rest) =>
    if c.is '-' then (comment rest).map fun _ => .silent
    else if c.is '[' then .found .sectionOpen rest
    else if !c.isKeywordLetter then .bad s
    else
      let after : Symbols := rest.dropWhile Symbol.isKeywordLetter
      let opened := Scan.found (.declOpen (s.before after).text) after
      match after.next? with
      | none => .ended
      | some (d, rest) =>
        if d.isSpace then opened
        else if d.is '%' then
          match Symbols.next? rest with
          | none => .ended
          | some (e, _) => if e.isSpace || e.is '%' then .bad after else opened
        else .bad after

def percentStart (s : Symbols) : Scan Lexeme :=
  match s with
  | [] => .ended
  | c :: _ =>
    if c.isSpace || c.is '%' then .found .percent s
    else (Xml.name s).andThen fun n rest => Scan.expect ';' (.parameter n.text) rest

/-- What follows a number sign: a name, which may end the text. -/
def keywordStart (s : Symbols) : Scan Lexeme :=
  match s with
  | [] => .ended
  | c :: rest =>
    if c.isNameStart then
      let after : Symbols := rest.dropWhile Symbol.isNameChar
      match after.next? with
      | none => .found (.keyword s.text) []
      | some (d, _) =>
        if d.isSpace || d.is ')' || d.is '>' || d.is '%' || d.is '|' then
          .found (.keyword (s.before after).text) after
        else Scan.refuse after
    else Scan.refuse s

/-- What a closing parenthesis is, by what follows it. -/
def parenEnd (s : Symbols) : Scan Lexeme :=
  match s.next? with
  | none => .found (.parenClose .once) []
  | some (c, rest) =>
    if c.is '*' then .found (.parenClose .any) rest
    else if c.is '?' then .found (.parenClose .optional) rest
    else if c.is '+' then .found (.parenClose .many) rest
    else if c.isSpace || c.is '>' || c.is ',' || c.is '|' || c.is ')' then
      .found (.parenClose .once) s
    else .bad s

/-- What a closing bracket is, by what follows it. -/
def bracketEnd (s : Symbols) : Scan Lexeme :=
  match s.next? with
  | none => .found .bracketClose []
  | some (c, rest) =>
    if c.is ']' then
      match Symbols.next? rest with
      | none => .ended
      | some (d, rest) => if d.is '>' then .found .sectionClose rest else .found .bracketClose s
    else .found .bracketClose s

inductive Word where
  | name
  | qualified
  | token

def Word.lexeme (word : Word) (text : String) : Lexeme :=
  match word with
  | .name => .name text
  | .qualified => .qualified text
  | .token => .token text

/-- A word with a sign of repetition after it; name characters that are no name take none. -/
def Word.repeated (word : Word) (text : String) (count : Repetition) (sign : Symbols) :
    Scan Lexeme :=
  match word with
  | .token => .bad sign
  | _ => .found (.repeated text count) (sign.drop 1)

def endsWord (s : Symbol) : Bool :=
  s.isSpace || s.is '>' || s.is ')' || s.is ',' || s.is '|' || s.is '[' || s.is '%'

/-- The rest of a word in the text that begins with the word. -/
def wordRest (text : Symbols) : Word → Symbols → Scan Lexeme
  | word, [] => .found (word.lexeme text.text) []
  | word, c :: rest =>
    if c.isNameChar then wordRest text word rest
    else if c.is ':' then
      match word with
      | .name =>
        match Symbols.next? rest with
        | none => .ended
        | some (d, _) => wordRest text (if d.isNameChar then .qualified else .token) rest
      | _ => wordRest text .token rest
    else
      let spelling := (text.before (c :: rest)).text
      if endsWord c then .found (word.lexeme spelling) (c :: rest)
      else if c.is '+' then word.repeated spelling .many (c :: rest)
      else if c.is '*' then word.repeated spelling .any (c :: rest)
      else if c.is '?' then word.repeated spelling .optional (c :: rest)
      else if c.form = .stray then .found (word.lexeme text.text) []
      else Scan.refuse (c :: rest)

/-- What follows a `<`, in the text that begins with it. -/
def markupStart (text s : Symbols) : Scan Lexeme :=
  match s.next? with
  | none => .ended
  | some (c, rest) =>
    if c.is '!' then declStart rest
    else if c.is '?' then
      (instruction rest).map fun declaration => if declaration then .declaration else .silent
    else if c.isNameStart || c.isCompound then .found .element text
    else .bad s

/-- The first lexeme of a text that is not empty. -/
def next (s : Symbols) : Scan Lexeme :=
  match s with
  | [] => .ended
  | c :: rest =>
    match c.char with
    | '"' => quotedText '"' rest
    | '\'' => quotedText '\'' rest
    | '<' => markupStart s rest
    | '%' => percentStart rest
    | ',' => .found .comma rest
    | '[' => .found .bracketOpen rest
    | ']' => bracketEnd rest
    | '(' => .found .parenOpen rest
    | ')' => parenEnd rest
    | '|' => .found .bar rest
    | '>' => .found .declClose rest
    | '#' => keywordStart rest
    | _ =>
      if c.isSpace then .found .space (Symbols.skipSpace rest)
      else if c.isNameStart then wordRest s .name rest
      else if c.isNameChar || c.is ':' then wordRest s .token rest
      else Scan.refuse s

end Lexeme

end Xml

end PromptForm
