import DesignGraph.Web.Body
import DesignGraph.Web.Data
import DesignGraph.Web.Player
/-!
# Exported documents

A whole design as one document that stands by itself: the markup of its pages, its data and the
script that runs it in a browser.

## Main definitions

* `DesignGraph.Web.document` — the document of a design.
* `DesignGraph.Web.fontLink` — the fonts that the document loads.
-/

namespace DesignGraph.Web

/-- The font families that are loaded; every other one is left to the browser. -/
def loadedFamilies : List String :=
  ["Inter", "Roboto", "Open Sans", "Lato", "Montserrat", "Poppins", "Playfair Display",
   "Merriweather", "Oswald", "Raleway", "Nunito", "Source Sans Pro", "Space Grotesk", "DM Sans"]

/-- The loaded families that the static styles name, in order of first appearance. -/
def families (elements : List Element) : List String :=
  elements.foldl (fun found element =>
    match Fields.get element.style "fontFamily" with
    | .str family =>
      if loadedFamilies.contains family && !found.contains family then found ++ [family]
      else found
    | _ => found) []

/-- The request for a family in two weights. -/
def familyQuery (family : String) : String :=
  "family=" ++ String.ofList (family.toList.map fun c => if c = ' ' then '+' else c) ++
    ":wght@400;700"

/-- The link that loads the fonts of a design, if it needs any. -/
def fontLink (project : Project) : String :=
  match families project.elements with
  | [] => ""
  | families =>
    "<link href=\"https://fonts.googleapis.com/css2?" ++
      "&".intercalate (families.map familyQuery) ++ "&display=swap\" rel=\"stylesheet\">"

/-- The animations that designs can play. -/
def keyframes : List String :=
  [
    "        @keyframes fadeIn \x7b from \x7b opacity: 0; \x7d to \x7b opacity: 1; \x7d " ++
      "\x7d",
    "        @keyframes fadeOut \x7b from \x7b opacity: 1; \x7d to \x7b opacity: 0; \x7d " ++
      "\x7d",
    "        @keyframes slideInUp \x7b from \x7b transform: translateY(50px); opacity: 0; " ++
      "\x7d to \x7b transform: translateY(0); opacity: 1; \x7d \x7d",
    "        @keyframes slideInDown \x7b from \x7b transform: translateY(-50px); opacity: " ++
      "0; \x7d to \x7b transform: translateY(0); opacity: 1; \x7d \x7d",
    "        @keyframes slideInLeft \x7b from \x7b transform: translateX(-50px); opacity: " ++
      "0; \x7d to \x7b transform: translateX(0); opacity: 1; \x7d \x7d",
    "        @keyframes slideInRight \x7b from \x7b transform: translateX(50px); opacity: " ++
      "0; \x7d to \x7b transform: translateX(0); opacity: 1; \x7d \x7d",
    "        @keyframes zoomIn \x7b from \x7b transform: scale(0.5); opacity: 0; \x7d to " ++
      "\x7b transform: scale(1); opacity: 1; \x7d \x7d",
    "        @keyframes zoomOut \x7b from \x7b transform: scale(1); opacity: 1; \x7d to " ++
      "\x7b transform: scale(0.5); opacity: 0; \x7d \x7d",
    "        @keyframes bounce \x7b 0%, 20%, 50%, 80%, 100% \x7b transform: translateY(0); " ++
      "\x7d 40% \x7b transform: translateY(-20px); \x7d 60% \x7b transform: " ++
      "translateY(-10px); \x7d \x7d",
    "        @keyframes pulse \x7b 0% \x7b transform: scale(1); \x7d 50% \x7b transform: " ++
      "scale(1.05); \x7d 100% \x7b transform: scale(1); \x7d \x7d",
    "        @keyframes shake \x7b 0%, 100% \x7b transform: translateX(0); \x7d 10%, 30%, " ++
      "50%, 70%, 90% \x7b transform: translateX(-5px); \x7d 20%, 40%, 60%, 80% \x7b " ++
      "transform: translateX(5px); \x7d \x7d",
    "        @keyframes spin \x7b 100% \x7b transform: rotate(360deg); \x7d \x7d"
  ]

/-- The height of the canvas in percent of its width. -/
def canvasHeight (project : Project) : Except Fault String := do
  let percent ← Css.percent project.height project.width
  return String.ofList (percent.toList.reverse.dropWhile (· == '%')).reverse

/-- The lines of a document before its pages. -/
def head (title fonts height : String) : List String :=
  [
    "<!DOCTYPE html>",
    "<html lang=\"en\">",
    "<head>",
    "    <meta charset=\"UTF-8\">",
    "    <meta name=\"viewport\" content=\"width=device-width, initial-scale=1.0, " ++
      "maximum-scale=5.0, user-scalable=yes\">",
    "    <title>" ++ Markup.escape title ++ "</title>",
    "    <script src=\"https://cdn.tailwindcss.com\"></script>",
    "    " ++ fonts,
    "    <style>",
    "        * \x7b box-sizing: border-box; \x7d",
    "        body \x7b margin: 0; padding: 0; overflow-x: hidden; background-color: " ++
      "#ffffff; font-family: sans-serif; \x7d",
    "        #app-root \x7b position: relative; width: 100vw; max-width: 100%; height: " ++
      height ++ "vw; min-height: 100vh; overflow-x: hidden; overflow-y: auto; \x7d",
    "        .hidden \x7b display: none !important; \x7d",
    "        @media (max-width: 768px) \x7b",
    "            #app-root \x7b height: auto; min-height: 100vh; width: 100%; \x7d",
    "            button[data-el-id] \x7b min-height: 44px; min-width: 44px; \x7d",
    "        \x7d",
    "        img, video, iframe \x7b max-width: 100%; height: auto; object-fit: contain; " ++
      "\x7d",
    "        .page-container \x7b max-width: 100%; overflow-x: hidden; \x7d"
  ] ++ keyframes ++ [
    "    </style>",
    "</head>",
    "<body>"
  ]

/-- The lines of a document after its script. -/
def foot : List String :=
  [
    "        const RUNTIME = createRuntime(PROJECT_DATA);",
    "        RUNTIME.init();",
    "    </script>",
    "</body>",
    "</html>"
  ]

/-- The document of a design. -/
def document (project : Project) (title : String) : Except Fault String := do
  let pages ← Body.pages project
  let height ← canvasHeight project
  return "\n".intercalate
    (head title (fontLink project) height ++
      ["    <div id=\"app-root\">", Markup.renderAll pages, "    </div>", "    <script>",
       "        const PROJECT_DATA = " ++ Embedded.text (Embedded.data project) ++ ";", player] ++
      foot) ++ "\n"

end DesignGraph.Web
