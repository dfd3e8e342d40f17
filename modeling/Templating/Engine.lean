import Templating.Page.Template
import Templating.Pattern.Template
import Templating.Resolver
import Templating.Sheet.Template

/-! The engines, the file names that they claim, and their parsers. -/

namespace Templating

/-- The engines that settings can name. -/
inductive Engine where
  | text
  | html
  | format
  deriving DecidableEq, Repr

namespace Engine

/-- The engines in the order in which their matchers are asked. -/
def all : List Engine := [text, html, format]

def name : Engine → String
  | text => "text"
  | html => "html"
  | format => "format"

def ofName? (name : String) : Option Engine := all.find? (·.name == name)

def suffixes : Engine → List String
  | text => [".txt.tpl", ".tmpl", ".txt.jinja", ".txt.j2"]
  | html => [".html.tpl", ".htm.tpl", ".html.jinja", ".html.j2"]
  | format => [".format", ".string", ".fmt"]

def claims (engine : Engine) (fileName : String) : Bool :=
  engine.suffixes.any (endsWith fileName)

def parser : Engine → Parser
  | text => Page.textParser
  | html => Page.htmlParser
  | format => Pattern.parser

/-- The matcher that gives an engine the file names that it claims. -/
def matcher (engine : Engine) : Matcher where
  name := engine.name
  select fileName := if engine.claims fileName then some engine.parser else none

def standardMatchers : List Matcher := all.map matcher

end Engine

namespace Sheet

def suffixes : List String := [".tera", ".tpl.tera"]

def matcher : Matcher where
  name := "tera"
  select fileName := if suffixes.any (endsWith fileName) then some parser else none

end Sheet

def Resolver.withStandard (resolver : Resolver) : Resolver :=
  resolver.addMatchers Engine.standardMatchers

end Templating
