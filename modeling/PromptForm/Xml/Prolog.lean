import PromptForm.Xml.Dtd
import PromptForm.Xml.Lexeme

/-!
# The prolog and the epilog

Before its element a document may hold comments, instructions and one document type, whose inner
part declares entities, attributes, elements and notations; behind it only comments and
instructions. Entities and attributes are kept for the content, the rest is checked and forgotten.

## Main definitions

* `Prolog.prolog`: the declarations before the document element, and the text from the element on.
* `Prolog.epilog`: the check of what follows the element.

## Design notes

A lexeme that does not fit where it stands is a fault at its first character. Each declaration is a
function that takes lexeme after lexeme, so that of two faults the first in the text is reported. A
lexeme is counted before it is used, except the start tag, which belongs to the content.
-/

namespace PromptForm

namespace Xml

namespace Prolog

/-- A lexeme with the text from it on and the text behind it. -/
structure Placed where
  lexeme : Lexeme
  start : Symbols
  rest : Symbols

def Placed.mark (p : Placed) : Nat := p.start.mark

/-- The fault of a lexeme that does not fit. -/
def Placed.misfit {α : Type} (p : Placed) : Except Stop α :=
  match p.lexeme with
  | .parameter _ => .error ⟨.illegalParameterReference, p.mark⟩
  | .declaration => .error ⟨.misplacedDeclaration, p.mark⟩
  | _ => .error ⟨.syntaxFault, p.mark⟩

/-- Counts a token, which reaches from a text to the rest of it. -/
def count (d : Dtd) (s rest : Symbols) : Except Stop Unit :=
  if (d.tallyBefore rest).isTolerated then .ok () else .error ⟨.tooMuchText, s.mark⟩

def read (d : Dtd) (s : Symbols) : Except Stop Placed :=
  if s.isEmpty then .error ⟨.noElement, 0⟩
  else do
    let (lexeme, rest) ← (Lexeme.next s).result s.mark
    let counted :=
      match lexeme with
      | .element => s
      | _ => rest
    count d s counted
    return ⟨lexeme, s, rest⟩

/-- The first lexeme that is no separator. -/
def readSolid (d : Dtd) (s : Symbols) : Except Stop Placed := do
  count d s s.skipSpace
  read d s.skipSpace

/-- The next lexeme must be one of a kind. -/
def want {α : Type} (d : Dtd) (f : Lexeme → Option α) (s : Symbols) :
    Except Stop (α × Placed) := do
  let p ← readSolid d s
  match f p.lexeme with
  | some value => return (value, p)
  | none => p.misfit

def asName : Lexeme → Option String
  | .name text => some text
  | _ => none

def asQualified : Lexeme → Option String
  | .name text => some text
  | .qualified text => some text
  | _ => none

def asLiteral : Lexeme → Option (Symbols)
  | .literal content => some content
  | _ => none

def asClose : Lexeme → Option Unit
  | .declClose => some ()
  | _ => none

/-- Whether a symbol may stand in a public identifier. -/
def isPublicIdChar (s : Symbol) : Bool :=
  s.char.isAlphanum || " \r\n-'()+,./:=?;!*#@$_%".toList.contains s.char

def publicId (d : Dtd) (s : Symbols) : Except Stop Symbols := do
  let (content, p) ← want d asLiteral s
  match content.dropWhile fun c => isPublicIdChar c || c.form = .stray with
  | [] => return p.rest
  | bad :: _ => throw ⟨.illegalPublicId, bad.left⟩

def systemId (d : Dtd) (s : Symbols) : Except Stop (Symbols) := do
  return (← want d asLiteral s).2.rest

def close (d : Dtd) (s : Symbols) : Except Stop (Symbols) := do
  return (← want d asClose s).2.rest

/-- The replacement text, in reverse, of an entity from its quoted value, behind what is replaced
already. Character references are replaced and references to entities are kept; parameter references
are not allowed here. With `fuel` at least the length of the value all of it is read. -/
def entityValue : Nat → List Char → Symbols → Except Stop (List Char)
  | 0, done, _ => .ok done
  | _, done, [] => .ok done
  | fuel + 1, done, s :: rest =>
    if s.is '&' then
      match reference rest with
      | .bad rest => .error ⟨.notWellFormed, rest.mark⟩
      | .found (.character none) _ => .error ⟨.badCharacterNumber, s.left⟩
      | .found (.character (some c)) rest => entityValue fuel (c :: done) rest
      | .found (.entity _) rest' =>
        entityValue fuel ((Symbols.before (s :: rest) rest').chars.reverse ++ done) rest'
      | _ => .error ⟨.notWellFormed, s.left⟩
    else if s.is '%' then
      match Lexeme.percentStart rest with
      | .found (.parameter _) _ => .error ⟨.illegalParameterReference, s.left⟩
      | .bad rest => .error ⟨.notWellFormed, rest.mark⟩
      | .found _ rest => .error ⟨.notWellFormed, rest.mark⟩
      | _ => .error ⟨.notWellFormed, s.left⟩
    else if s.form = .stray then .error ⟨.notWellFormed, s.left⟩
    else if s.is '\r' then entityValue fuel ('\n' :: done) (skipLineFeed rest)
    else entityValue fuel (s.char :: done) rest

/-- What an entity is declared as: a quoted value, or identifiers of something outside, and for an
entity that is no markup a notation. Only general entities have notations. -/
def entityBody (d : Dtd) (isGeneral : Bool) (s : Symbols) :
    Except Stop (Entity × Symbols) := do
  let p ← readSolid d s
  match p.lexeme with
  | .literal content =>
    let reversed ← if d.counts then entityValue content.length [] content else pure []
    return (.inner (Symbols.ofChars reversed.reverse), ← close d p.rest)
  | .name word =>
    let rest ←
      if word = "SYSTEM" then systemId d p.rest
      else if word = "PUBLIC" then systemId d (← publicId d p.rest)
      else p.misfit
    let p ← readSolid d rest
    match p.lexeme with
    | .declClose => return (.outer, p.rest)
    | .name "NDATA" =>
      if isGeneral then
        let (_, p) ← want d asName p.rest
        return (.unparsed, ← close d p.rest)
      else p.misfit
    | _ => p.misfit
  | _ => p.misfit

/-- An entity declaration, behind its keyword. -/
def entityDecl (d : Dtd) (s : Symbols) : Except Stop (Dtd × Symbols) := do
  let p ← readSolid d s
  match p.lexeme with
  | .percent =>
    let (_, p) ← want d asName p.rest
    let (_, rest) ← entityBody d false p.rest
    return (d, rest)
  | .name name =>
    let (entity, rest) ← entityBody d true p.rest
    return (if d.counts then d.declareEntity name entity else d, rest)
  | _ => p.misfit

/-- Names with bars between them up to a closing parenthesis. -/
def enumeration (d : Dtd) (allowed : Lexeme → Option String) : Nat → Symbols → Except Stop (Symbols)
  | 0, s => .error ⟨.syntaxFault, s.mark⟩
  | fuel + 1, s => do
    let (_, p) ← want d allowed s
    let p ← readSolid d p.rest
    match p.lexeme with
    | .bar => enumeration d allowed fuel p.rest
    | .parenClose .once => return p.rest
    | _ => p.misfit

def asToken : Lexeme → Option String
  | .token text => some text
  | l => asQualified l

/-- The type of an attribute: whether it is character data. -/
def attributeType (d : Dtd) (s : Symbols) : Except Stop (Bool × Symbols) := do
  let p ← readSolid d s
  match p.lexeme with
  | .parenOpen => return (false, ← enumeration d asToken (s.mark + 1) p.rest)
  | .name "CDATA" => return (true, p.rest)
  | .name "NOTATION" =>
    let q ← readSolid d p.rest
    match q.lexeme with
    | .parenOpen => return (false, ← enumeration d asName (s.mark + 1) q.rest)
    | _ => q.misfit
  | .name word =>
    if ["ID", "IDREF", "IDREFS", "ENTITY", "ENTITIES", "NMTOKEN", "NMTOKENS"].contains word then
      return (false, p.rest)
    else p.misfit
  | _ => p.misfit

/-- The default in a literal, and the declarations with what was read for it. -/
def defaultValue (d : Dtd) (isCdata : Bool) (p : Placed) (content : Symbols) :
    Except Stop (String × Dtd) := do
  if d.counts then
    let (value, tally) ← d.value [] .none (d.tallyBefore p.rest) isCdata p.mark (pieces content)
    return (value, { d with spent := tally.indirect })
  else return ("", d)

/-- The default of an attribute, if there is one, with the declarations and the rest. -/
def attributeDefault (d : Dtd) (isCdata : Bool) (s : Symbols) :
    Except Stop (Option String × Dtd × Symbols) := do
  let p ← readSolid d s
  match p.lexeme with
  | .keyword "IMPLIED" => return (none, d, p.rest)
  | .keyword "REQUIRED" => return (none, d, p.rest)
  | .keyword "FIXED" =>
    let (content, p) ← want d asLiteral p.rest
    let (value, d) ← defaultValue d isCdata p content
    return (some value, d, p.rest)
  | .literal content =>
    let (value, d) ← defaultValue d isCdata p content
    return (some value, d, p.rest)
  | _ => p.misfit

/-- The attributes of an attribute declaration up to its end. -/
def attributeDecls (element : String) : Nat → Dtd → Symbols → Except Stop (Dtd × Symbols)
  | 0, _, s => .error ⟨.syntaxFault, s.mark⟩
  | fuel + 1, d, s => do
    let p ← readSolid d s
    match p.lexeme with
    | .declClose => return (d, p.rest)
    | lexeme =>
      match asQualified lexeme with
      | none => p.misfit
      | some name =>
        let (isCdata, rest) ← attributeType d p.rest
        let (default?, d, rest) ← attributeDefault d isCdata rest
        let decl : AttributeDecl := ⟨name, isCdata, default?⟩
        attributeDecls element fuel (if d.counts then d.declare element decl else d) rest

/-- An attribute declaration, behind its keyword. -/
def attlistDecl (d : Dtd) (s : Symbols) : Except Stop (Dtd × Symbols) := do
  let (element, p) ← want d asQualified s
  attributeDecls element (s.mark + 1) d p.rest

/-- A content model with text, behind the word for text. -/
def mixedModel (d : Dtd) (isFirst : Bool) : Nat → Symbols → Except Stop (Symbols)
  | 0, s => .error ⟨.syntaxFault, s.mark⟩
  | fuel + 1, s => do
    let p ← readSolid d s
    match p.lexeme with
    | .parenClose .any => return p.rest
    | .parenClose .once => if isFirst then return p.rest else p.misfit
    | .bar =>
      let (_, p) ← want d asQualified p.rest
      mixedModel d false fuel p.rest
    | _ => p.misfit

/-- A content model of elements. For every open parenthesis the separator used in it is kept; the
flag tells whether a part is expected next, rather than a separator or an end. -/
def elementModel (d : Dtd) : Nat → List (Option Lexeme) → Bool → Symbols → Except Stop (Symbols)
  | 0, _, _, s => .error ⟨.syntaxFault, s.mark⟩
  | fuel + 1, levels, true, s => do
    let p ← readSolid d s
    match p.lexeme with
    | .parenOpen => elementModel d fuel (none :: levels) true p.rest
    | .repeated _ _ => elementModel d fuel levels false p.rest
    | lexeme =>
      if (asQualified lexeme).isSome then elementModel d fuel levels false p.rest else p.misfit
  | fuel + 1, levels, false, s => do
    let p ← readSolid d s
    match p.lexeme, levels with
    | .parenClose _, [_] => return p.rest
    | .parenClose _, _ :: levels => elementModel d fuel levels false p.rest
    | .comma, some .bar :: _ => p.misfit
    | .bar, some .comma :: _ => p.misfit
    | .comma, _ :: levels => elementModel d fuel (some .comma :: levels) true p.rest
    | .bar, _ :: levels => elementModel d fuel (some .bar :: levels) true p.rest
    | _, _ => p.misfit

/-- An element declaration, behind its keyword. -/
def elementDecl (d : Dtd) (s : Symbols) : Except Stop (Symbols) := do
  let (_, p) ← want d asQualified s
  let p ← readSolid d p.rest
  match p.lexeme with
  | .name "EMPTY" => close d p.rest
  | .name "ANY" => close d p.rest
  | .parenOpen =>
    let q ← readSolid d p.rest
    match q.lexeme with
    | .keyword "PCDATA" => close d (← mixedModel d true (s.mark + 1) q.rest)
    | _ => close d (← elementModel d (s.mark + 1) [none] true p.rest)
  | _ => p.misfit

/-- A notation declaration, behind its keyword. -/
def notationDecl (d : Dtd) (s : Symbols) : Except Stop (Symbols) := do
  let (_, p) ← want d asName s
  let p ← readSolid d p.rest
  match p.lexeme with
  | .name "SYSTEM" => close d (← systemId d p.rest)
  | .name "PUBLIC" =>
    let rest ← publicId d p.rest
    let p ← readSolid d rest
    match p.lexeme with
    | .declClose => return p.rest
    | .literal _ => close d p.rest
    | _ => p.misfit
  | _ => p.misfit

/-- The inner part of a document type up to its bracket. -/
def subset : Nat → Dtd → Symbols → Except Stop (Dtd × Symbols)
  | 0, _, s => .error ⟨.syntaxFault, s.mark⟩
  | fuel + 1, d, s => do
    let p ← readSolid d s
    match p.lexeme with
    | .bracketClose => return (d, p.rest)
    | .silent => subset fuel d p.rest
    | .parameter _ =>
      subset fuel { d with hasOuterPart := true, counts := d.standalone } p.rest
    | .declOpen "ENTITY" =>
      let (d, rest) ← entityDecl d p.rest
      subset fuel d rest
    | .declOpen "ATTLIST" =>
      let (d, rest) ← attlistDecl d p.rest
      subset fuel d rest
    | .declOpen "ELEMENT" => subset fuel d (← elementDecl d p.rest)
    | .declOpen "NOTATION" => subset fuel d (← notationDecl d p.rest)
    | _ => p.misfit

/-- The inner part of a document type, if any, and the end of the document type. -/
def doctypeEnd (d : Dtd) (s : Symbols) : Except Stop (Dtd × Symbols) := do
  let p ← readSolid d s
  match p.lexeme with
  | .declClose => return (d, p.rest)
  | .bracketOpen =>
    let (d, rest) ← subset (s.mark + 1) d p.rest
    return (d, ← close d rest)
  | _ => p.misfit

def doctype (d : Dtd) (s : Symbols) : Except Stop (Dtd × Symbols) := do
  let (_, p) ← want d asQualified s
  let q ← readSolid d p.rest
  match q.lexeme with
  | .name "SYSTEM" => doctypeEnd { d with hasOuterPart := true } (← systemId d q.rest)
  | .name "PUBLIC" =>
    doctypeEnd { d with hasOuterPart := true } (← systemId d (← publicId d q.rest))
  | _ => doctypeEnd d p.rest

/-- The declarations before the document element, and the text from the element on. The flag tells
whether a document type may still come. -/
def misc : Nat → Bool → Dtd → Symbols → Except Stop (Dtd × Symbols)
  | 0, _, _, s => .error ⟨.syntaxFault, s.mark⟩
  | fuel + 1, mayDeclare, d, s => do
    let p ← readSolid d s
    match p.lexeme with
    | .silent => misc fuel mayDeclare d p.rest
    | .element => return (d, p.start)
    | .declOpen "DOCTYPE" =>
      if mayDeclare then
        let (d, rest) ← doctype d p.rest
        misc fuel false d rest
      else p.misfit
    | _ => p.misfit

/-- The declarations before the document element, and the text from the element on. -/
def prolog (d : Dtd) (s : Symbols) : Except Stop (Dtd × Symbols) :=
  misc (s.mark + 1) true d s

/-- Checks that nothing but separators, comments and instructions follows the document element. -/
def epilog (d : Dtd) : Nat → Symbols → Except Stop Unit
  | 0, _ => .ok ()
  | fuel + 1, s => do
    count d s s.skipSpace
    if s.skipSpace.isEmpty then return
    let p ← read d s.skipSpace
    match p.lexeme with
    | .silent => epilog d fuel p.rest
    | _ => throw ⟨.junkAfterElement, p.mark⟩

end Prolog

end Xml

end PromptForm
