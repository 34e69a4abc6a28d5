/-!
# The two pages

The fixed text of the preview page and of the shell page that shows it in a frame, piece by piece
between the placeholders that `Page` fills, and the shell's stylesheet and reload script.
-/

namespace LivePreview.Page

/-- What both pages start with. -/
def pageHead : String :=
  "<!DOCTYPE html>\n<html>\n<head>\n  <meta charset=\"UTF-8\">\n" ++
  "  <meta name=\"viewport\" content=\"width=device-width, initial-scale=1.0\">\n"

/-! ## The skeleton of a preview -/

/-- Up to the style. -/
def previewHead : String := pageHead ++ "  <style>"

/-- From the style to the markup. -/
def previewBody : String := "</style>\n</head>\n<body>\n  <main>"

/-- From the markup to the script. -/
def previewScript : String := "</main>\n  <script>"

/-- Behind the script. -/
def previewEnd : String := "</script>\n</body>\n</html>\n"

/-- The skeleton of a preview. -/
def previewTemplate : String :=
  previewHead ++ "__FENCEPLAY_STYLE__" ++ previewBody ++ "__FENCEPLAY_MARKUP__" ++ previewScript ++
    "__FENCEPLAY_BEHAVIOR__" ++ previewEnd

/-! ## The skeleton of the shell page -/

/-- Up to the title. -/
def shellHead : String := pageHead ++ "  <title>"

/-- From the title to the style. -/
def shellHeading : String := "</title>\n  <style>"

/-- From the style to the frame's address. -/
def shellFrame : String :=
  "</style>\n</head>\n<body>\n" ++
  "  <iframe id=\"fenceplay-preview\" sandbox=\"allow-scripts\" src=\""

/-- From the frame's address to the script. -/
def shellScript : String := "\"></iframe>\n  <script>"

/-- Behind the script. -/
def shellEnd : String := "</script>\n</body>\n</html>\n"

/-- The skeleton of the shell page. -/
def shellTemplate : String :=
  shellHead ++ "__FENCEPLAY_TITLE__" ++ shellHeading ++ "__FENCEPLAY_SHELL_CSS__" ++ shellFrame ++
    "__FENCEPLAY_SRC__" ++ shellScript ++ "__FENCEPLAY_HOTRELOAD_JS__" ++ shellEnd

/-- The shell's stylesheet. -/
def shellStyle : String :=
  "html,body\x7bmargin:0;padding:0;height:100%;background:#fff\x7d#fenceplay-preview\x7b" ++
  "display:block;width:100%;height:100%;border:none\x7d" ++
  "#fenceplay-preview.fenceplay-disconnected\x7boutline:3px solid #d97706;" ++
  "outline-offset:-3px\x7d"

/-! ## The reload script -/

/-- Up to the port. -/
def reloadHead : String := "(function()\x7bvar e=`"

/-- Behind the port. -/
def reloadTail : String :=
  "`,t=document.getElementById(`fenceplay-preview`)," ++
  "n=500;function r(e)\x7bt&&t.getAttribute(`src`)!==e&&t.setAttribute(`src`,e)\x7dfunction i()" ++
  "\x7bvar a=new WebSocket(`ws://`+location.hostname+`:`+e);a.onopen=function()\x7bn=500," ++
  "t&&t.classList.remove(`fenceplay-disconnected`)\x7d,a.onmessage=function(e)\x7bvar n;try\x7b" ++
  "n=JSON.parse(e.data)\x7dcatch\x7breturn\x7dn.type===`navigate`&&n.url?r(n.url)" ++
  ":n.type===`closed`&&t&&t.setAttribute(`src`,`about:blank`)\x7d,a.onclose=function()\x7b" ++
  "t&&t.classList.add(`fenceplay-disconnected`),setTimeout(i,n),n=Math.min(n*2,5e3)\x7d\x7di()" ++
  "\x7d)();"

/-- The shell's reload script, which names the frame's address whenever it is told a new one. -/
def reloadScript : String := reloadHead ++ "__FENCEPLAY_WS_PORT__" ++ reloadTail

end LivePreview.Page
