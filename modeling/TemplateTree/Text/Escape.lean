/-!
# Escaping for HTML

The five characters with a meaning in HTML text and attributes are written as character references.
-/

namespace TemplateTree.Text

/-- How one character stands in HTML. -/
def escapeChar (c : Char) : List Char :=
  if c == '&' then "&amp;".toList
  else if c == '>' then "&gt;".toList
  else if c == '<' then "&lt;".toList
  else if c == '\'' then "&#39;".toList
  else if c == '"' then "&#34;".toList
  else [c]

/-- The HTML form of a text. -/
def escapeHtml (s : String) : String :=
  String.ofList (s.toList.flatMap escapeChar)

end TemplateTree.Text
