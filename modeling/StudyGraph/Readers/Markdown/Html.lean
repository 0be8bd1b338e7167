import StudyGraph.Readers.Markdown.Row
import StudyGraph.Text.Search

/-!
# HTML blocks

How a row opens a block of HTML. Some openings name the text whose line closes the block
(`closing?`); the others open a block that goes on to the next blank row. Of these the block
elements (`opensElement`) may interrupt a paragraph, and a complete tag alone on its row
(`isLoneTag`) may not.
-/

namespace StudyGraph.Markdown.Html

/-- A character in lower case, as far as ASCII goes. -/
def lower (t : Text) : Text :=
  t.map Char.toLower

/-- What follows a name, if the text starts with it in any case. -/
def afterName? (name t : Text) : Option Text :=
  if lower (t.take name.length) = name then some (t.drop name.length) else none

/-- The elements with verbatim content, and the tags that close them. -/
def verbatim : List (Text × Text) :=
  [("pre", "</pre>"), ("style", "</style>"), ("script", "</script>"), ("textarea", "</textarea>")]

/-- Openings of comments, processing instructions and character data, and their ends. -/
def sections : List (Text × Text) :=
  [("!--", "-->"), ("?", "?>"), ("![CDATA[", "]]>")]

/-- The text that closes the block opened by what stands behind `<`, for the openings that name
one. -/
def closing? (t : Text) : Option Text :=
  match verbatim.find? (fun e => match afterName? e.1 t with
      | some (c :: _) => isSpace c || c == '>'
      | some [] => true
      | none => false) with
  | some e => some e.2
  | none =>
    match sections.find? (fun e => e.1.isPrefixOf t) with
    | some e => some e.2
    | none =>
      match t with
      | '!' :: c :: _ => if c.isAlpha then some ">" else none
      | _ => none

/-- The names of the block elements. -/
def blockNames : List Text :=
  ["address", "article", "aside", "base", "basefont", "blockquote", "body", "caption", "center",
    "col", "colgroup", "dd", "details", "dialog", "dir", "div", "dl", "dt", "fieldset",
    "figcaption", "figure", "footer", "form", "frame", "frameset", "h1", "h2", "h3", "h4", "h5",
    "h6", "head", "header", "hr", "html", "iframe", "legend", "li", "link", "main", "menu",
    "menuitem", "nav", "noframes", "ol", "optgroup", "option", "p", "param", "search", "section",
    "summary", "table", "tbody", "td", "tfoot", "th", "thead", "title", "tr", "track",
    "ul"].map String.toList

/-- Whether the tag of a block element stands behind `<`. -/
def opensElement (t : Text) : Bool :=
  let t := (Text.afterPrefix? "/" t).getD t
  let name := t.takeWhile Char.isAlphanum
  blockNames.contains (lower name) &&
    match t.drop name.length with
    | [] => true
    | '/' :: '>' :: _ => true
    | c :: _ => c == ' ' || c == '\t' || c == '>'

/-! ## Complete tags -/

/-- What follows the name of a tag. -/
def afterTagName? : Text → Option Text
  | c :: t => if c.isAlpha then some (t.dropWhile fun d => d.isAlphanum || d == '-') else none
  | [] => none

/-- What follows the name of an attribute. -/
def afterAttributeName? : Text → Option Text
  | c :: t =>
    if c.isAlpha || c == '_' || c == ':' then
      some (t.dropWhile fun d => d.isAlphanum || d == '_' || d == '.' || d == ':' || d == '-')
    else none
  | [] => none

/-- The characters that an unquoted value may not have. -/
def endsValue (c : Char) : Bool :=
  c == '\'' || c == '"' || c == ' ' || c == '=' || c == '>' || c == '<' || c == '`'

/-- What follows the value of an attribute. -/
def afterValue? : Text → Option Text
  | [] => none
  | c :: t =>
    if c == '"' || c == '\'' then
      match t.dropWhile (· != c) with
      | _ :: rest => some rest
      | [] => none
    else if c == ' ' || c == '=' || c == '>' || c == '<' || c == '`' then none
    else some ((c :: t).dropWhile fun d => !endsValue d)

/-- What follows an attribute with its value, if it has one. Spaces behind it are left. -/
def afterAttribute? (t : Text) : Option Text := do
  let t ← afterAttributeName? t
  match t.dropWhile isSpace with
  | '=' :: value => afterValue? (value.dropWhile isSpace)
  | _ => some t

/-- What follows the attributes of a tag: a slash or a closing bracket comes next. Each attribute
has spaces before it, so `limit` attributes are enough for a row with as many characters. -/
def afterAttributes? : (limit : Nat) → Text → Option Text
  | 0, _ => none
  | limit + 1, t =>
    match t.dropWhile isSpace with
    | [] => none
    | c :: rest =>
      if c == '/' || c == '>' then some (c :: rest)
      else if (t.head?.map isSpace).getD false then
        (afterAttribute? (c :: rest)).bind (afterAttributes? limit)
      else none

/-- What follows a complete opening or closing tag, from behind its `<`. -/
def afterTag? : Text → Option Text
  | '/' :: t => do
    let t ← afterTagName? t
    Text.afterPrefix? ">" (t.dropWhile isSpace)
  | t => do
    let t ← afterTagName? t
    let t ← afterAttributes? (t.length + 1) t
    Text.afterPrefix? ">" ((Text.afterPrefix? "/" t).getD t)

/-- Whether nothing but a complete tag stands on the rest of a row, behind `<`. -/
def isLoneTag (t : Text) : Bool :=
  match afterTag? t with
  | some rest => isBlankRow rest
  | none => false

end StudyGraph.Markdown.Html
