import LspWire.Schema.Basic

/-! The enumerations of the protocol.
Those of numbers and of words are closed; a language may also be any other word. -/

namespace LspWire.Protocol

def diagnosticSeverity : IntegerEnum :=
  ⟨"DiagnosticSeverity", [("Error", 1), ("Warning", 2), ("Information", 3), ("Hint", 4)]⟩

def diagnosticTag : IntegerEnum := ⟨"DiagnosticTag", [("Unnecessary", 1), ("Deprecated", 2)]⟩

def messageType : IntegerEnum :=
  ⟨"MessageType", [("Error", 1), ("Warning", 2), ("Info", 3), ("Log", 4), ("Debug", 5)]⟩

def markupKind : WordEnum :=
  ⟨"MarkupKind", [("PlainText", "plaintext"), ("Markdown", "markdown")]⟩

def traceValue : WordEnum :=
  ⟨"TraceValue", [("Off", "off"), ("Messages", "messages"), ("Verbose", "verbose")]⟩

def languageKind : WordEnum :=
  ⟨"LanguageKind",
    [("Abap", "abap"), ("WindowsBat", "bat"), ("BibTeX", "bibtex"), ("Clojure", "clojure"),
     ("Coffeescript", "coffeescript"), ("C", "c"), ("Cpp", "cpp"), ("CSharp", "csharp"),
     ("Css", "css"), ("Diff", "diff"), ("Dart", "dart"), ("Dockerfile", "dockerfile"),
     ("Elixir", "elixir"), ("Erlang", "erlang"), ("FSharp", "fsharp"),
     ("GitCommit", "git-commit"), ("GitRebase", "rebase"), ("Go", "go"), ("Groovy", "groovy"),
     ("Handlebars", "handlebars"), ("Haskell", "haskell"), ("Html", "html"), ("Ini", "ini"),
     ("Java", "java"), ("JavaScript", "javascript"), ("JavaScriptReact", "javascriptreact"),
     ("Json", "json"), ("LaTeX", "latex"), ("Less", "less"), ("Lua", "lua"),
     ("Makefile", "makefile"), ("Markdown", "markdown"), ("ObjectiveC", "objective-c"),
     ("ObjectiveCpp", "objective-cpp"), ("Perl", "perl"), ("Perl6", "perl6"), ("Php", "php"),
     ("Powershell", "powershell"), ("Pug", "jade"), ("Python", "python"), ("R", "r"),
     ("Razor", "razor"), ("Ruby", "ruby"), ("Rust", "rust"), ("Scss", "scss"), ("Sass", "sass"),
     ("Scala", "scala"), ("ShaderLab", "shaderlab"), ("ShellScript", "shellscript"),
     ("Sql", "sql"), ("Swift", "swift"), ("TypeScript", "typescript"),
     ("TypeScriptReact", "typescriptreact"), ("TeX", "tex"), ("VisualBasic", "vb"),
     ("Xml", "xml"), ("Xsl", "xsl"), ("Yaml", "yaml")]⟩

end LspWire.Protocol
