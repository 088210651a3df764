/-!
# Stylesheet snippets

Short names for properties with their usual values, and for whole texts.  The
entries are in the order of their names, which settles ties between matches.
-/

namespace Shorthand.Stylesheet

/-- What a name stands for. -/
inductive Definition
  /-- A property, and the values to choose from. -/
  | property (name : String) (values : List String)
  /-- A text with fields. -/
  | text (body : String)

def definitions : List (String × Definition) :=
  [("@f", .text "@font-face \x7b\n\tfont-family: $\x7b1\x7d;\n\tsrc: url($\x7b2\x7d);\n\x7d"),
  ("@ff", .text <|
    "@font-face \x7b\n" ++
    "\tfont-family: '$\x7b1:FontName\x7d';\n" ++
    "\tsrc: url('$\x7b2:FileName\x7d.eot');\n" ++
    "\tsrc: url('$\x7b2:FileName\x7d.eot?#iefix') format('embedded-opentype'),\n" ++
    "\t\t url('$\x7b2:FileName\x7d.woff') format('woff'),\n" ++
    "\t\t url('$\x7b2:FileName\x7d.ttf') format('truetype'),\n" ++
    "\t\t url('$\x7b2:FileName\x7d.svg#$\x7b1:FontName\x7d') format('svg');\n" ++
    "\tfont-style: $\x7b3:normal\x7d;\n" ++
    "\tfont-weight: $\x7b4:normal\x7d;\n" ++
    "\x7d"),
  ("@i", .text "@import url($\x7b0\x7d);"),
  ("@import", .text "@import url($\x7b0\x7d);"),
  ("@kf", .text "@keyframes $\x7b1:identifier\x7d \x7b\n\t$\x7b2\x7d\n\x7d"),
  ("@m", .text "@media $\x7b1:screen\x7d \x7b\n\t$\x7b0\x7d\n\x7d"),
  ("@media", .text "@media $\x7b1:screen\x7d \x7b\n\t$\x7b0\x7d\n\x7d"),
  ("ac", .property "align-content" ["start", "end", "flex-start", "flex-end", "center",
    "space-between", "space-around", "stretch", "space-evenly"]),
  ("ai", .property "align-items" ["start", "end", "flex-start", "flex-end", "center", "baseline",
    "stretch"]),
  ("anim", .property "animation" [
    "$\x7b1:name\x7d $\x7b2:duration\x7d $\x7b3:timing-function\x7d $\x7b4:delay\x7d $\x7b5:iteration-count\x7d $\x7b6:direction\x7d $\x7b7:fill-mode\x7d"]),
  ("animdel", .property "animation-delay" ["$\x7b1:time\x7d"]),
  ("animdir", .property "animation-direction" ["normal", "reverse", "alternate",
    "alternate-reverse"]),
  ("animdur", .property "animation-duration" ["$\x7b1:0\x7ds"]),
  ("animfm", .property "animation-fill-mode" ["both", "forwards", "backwards"]),
  ("animic", .property "animation-iteration-count" ["1", "infinite"]),
  ("animn", .property "animation-name" []),
  ("animps", .property "animation-play-state" ["running", "paused"]),
  ("animtf", .property "animation-timing-function" ["linear", "ease", "ease-in", "ease-out",
    "ease-in-out", "cubic-bezier($\x7b1:0.1\x7d, $\x7b2:0.7\x7d, $\x7b3:1.0\x7d, $\x7b3:0.1\x7d)"]),
  ("ap", .property "appearance" ["none"]),
  ("as", .property "align-self" ["start", "end", "auto", "flex-start", "flex-end", "center",
    "baseline", "stretch"]),
  ("b", .property "bottom" []),
  ("bd", .property "border" ["$\x7b1:1px\x7d $\x7b2:solid\x7d $\x7b3:#000\x7d"]),
  ("bdb", .property "border-bottom" ["$\x7b1:1px\x7d $\x7b2:solid\x7d $\x7b3:#000\x7d"]),
  ("bdbc", .property "border-bottom-color" ["$\x7b1:#000\x7d"]),
  ("bdbi", .property "border-bottom-image" ["url($\x7b0\x7d)"]),
  ("bdbk", .property "border-break" ["close"]),
  ("bdbli", .property "border-bottom-left-image" ["url($\x7b0\x7d)", "continue"]),
  ("bdblrs", .property "border-bottom-left-radius" []),
  ("bdbri", .property "border-bottom-right-image" ["url($\x7b0\x7d)", "continue"]),
  ("bdbrrs", .property "border-bottom-right-radius" []),
  ("bdbs", .property "border-bottom-style" []),
  ("bdbw", .property "border-bottom-width" []),
  ("bdc", .property "border-color" ["$\x7b1:#000\x7d"]),
  ("bdci", .property "border-corner-image" ["url($\x7b0\x7d)", "continue"]),
  ("bdcl", .property "border-collapse" ["collapse", "separate"]),
  ("bdf", .property "border-fit" ["repeat", "clip", "scale", "stretch", "overwrite", "overflow",
    "space"]),
  ("bdi", .property "border-image" ["url($\x7b0\x7d)"]),
  ("bdl", .property "border-left" ["$\x7b1:1px\x7d $\x7b2:solid\x7d $\x7b3:#000\x7d"]),
  ("bdlc", .property "border-left-color" ["$\x7b1:#000\x7d"]),
  ("bdlen", .property "border-length" []),
  ("bdli", .property "border-left-image" ["url($\x7b0\x7d)"]),
  ("bdls", .property "border-left-style" []),
  ("bdlw", .property "border-left-width" []),
  ("bdr", .property "border-right" ["$\x7b1:1px\x7d $\x7b2:solid\x7d $\x7b3:#000\x7d"]),
  ("bdrc", .property "border-right-color" ["$\x7b1:#000\x7d"]),
  ("bdri", .property "border-right-image" ["url($\x7b0\x7d)"]),
  ("bdrs", .property "border-radius" []),
  ("bdrst", .property "border-right-style" []),
  ("bdrw", .property "border-right-width" []),
  ("bds", .property "border-style" ["none", "hidden", "dotted", "dashed", "solid", "double",
    "dot-dash", "dot-dot-dash", "wave", "groove", "ridge", "inset", "outset"]),
  ("bdsp", .property "border-spacing" []),
  ("bdt", .property "border-top" ["$\x7b1:1px\x7d $\x7b2:solid\x7d $\x7b3:#000\x7d"]),
  ("bdtc", .property "border-top-color" ["$\x7b1:#000\x7d"]),
  ("bdti", .property "border-top-image" ["url($\x7b0\x7d)"]),
  ("bdtli", .property "border-top-left-image" ["url($\x7b0\x7d)", "continue"]),
  ("bdtlrs", .property "border-top-left-radius" []),
  ("bdtri", .property "border-top-right-image" ["url($\x7b0\x7d)", "continue"]),
  ("bdtrrs", .property "border-top-right-radius" []),
  ("bdts", .property "border-top-style" []),
  ("bdtw", .property "border-top-width" []),
  ("bdw", .property "border-width" []),
  ("bfv", .property "backface-visibility" ["hidden", "visible"]),
  ("bg", .property "background" ["$\x7b1:#000\x7d"]),
  ("bg:n", .property "background" ["none"]),
  ("bga", .property "background-attachment" ["fixed", "scroll"]),
  ("bgbk", .property "background-break" ["bounding-box", "each-box", "continuous"]),
  ("bgc", .property "background-color" ["$\x7b1:#fff\x7d"]),
  ("bgcp", .property "background-clip" ["padding-box", "border-box", "content-box", "no-clip"]),
  ("bgi", .property "background-image" ["url($\x7b0\x7d)"]),
  ("bgo", .property "background-origin" ["padding-box", "border-box", "content-box"]),
  ("bgp", .property "background-position" ["$\x7b1:0\x7d $\x7b2:0\x7d"]),
  ("bgpx", .property "background-position-x" []),
  ("bgpy", .property "background-position-y" []),
  ("bgr", .property "background-repeat" ["no-repeat", "repeat-x", "repeat-y", "space", "round"]),
  ("bgsz", .property "background-size" ["contain", "cover"]),
  ("bxsh", .property "box-shadow" [
    "$\x7b1:inset \x7d$\x7b2:hoff\x7d $\x7b3:voff\x7d $\x7b4:blur\x7d $\x7b5:#000\x7d", "none"]),
  ("bxsz", .property "box-sizing" ["border-box", "content-box", "border-box"]),
  ("c", .property "color" ["$\x7b1:#000\x7d"]),
  ("cl", .property "clear" ["both", "left", "right", "none"]),
  ("cm", .text "/* $\x7b0\x7d */"),
  ("cnt", .property "content" ["'$\x7b0\x7d'", "normal", "open-quote", "no-open-quote",
    "close-quote", "no-close-quote", "attr($\x7b0\x7d)", "counter($\x7b0\x7d)",
    "counters($\x7b0\x7d)"]),
  ("coi", .property "counter-increment" []),
  ("colm", .property "columns" []),
  ("colmc", .property "column-count" []),
  ("colmf", .property "column-fill" []),
  ("colmg", .property "column-gap" []),
  ("colmr", .property "column-rule" []),
  ("colmrc", .property "column-rule-color" []),
  ("colmrs", .property "column-rule-style" []),
  ("colmrw", .property "column-rule-width" []),
  ("colms", .property "column-span" []),
  ("colmw", .property "column-width" []),
  ("cor", .property "counter-reset" []),
  ("cp", .property "clip" ["auto", "rect($\x7b1:0\x7d $\x7b2:0\x7d $\x7b3:0\x7d $\x7b4:0\x7d)"]),
  ("cps", .property "caption-side" ["top", "bottom"]),
  ("cr", .property "color" ["rgb($\x7b1:0\x7d, $\x7b2:0\x7d, $\x7b3:0\x7d)"]),
  ("cra", .property "color" ["rgba($\x7b1:0\x7d, $\x7b2:0\x7d, $\x7b3:0\x7d, $\x7b4:.5\x7d)"]),
  ("cur", .property "cursor" ["pointer", "auto", "default", "crosshair", "hand", "help", "move",
    "pointer", "text"]),
  ("d", .property "display" ["block", "none", "flex", "inline-flex", "inline", "inline-block",
    "grid", "inline-grid", "subgrid", "list-item", "run-in", "contents", "table", "inline-table",
    "table-caption", "table-column", "table-column-group", "table-header-group",
    "table-footer-group", "table-row", "table-row-group", "table-cell", "ruby", "ruby-base",
    "ruby-base-group", "ruby-text", "ruby-text-group"]),
  ("ec", .property "empty-cells" ["show", "hide"]),
  ("f", .property "font" ["$\x7b1:1em\x7d $\x7b2:sans-serif\x7d"]),
  ("fd", .property "font-display" ["auto", "block", "swap", "fallback", "optional"]),
  ("fef", .property "font-effect" ["none", "engrave", "emboss", "outline"]),
  ("fem", .property "font-emphasize" []),
  ("femp", .property "font-emphasize-position" ["before", "after"]),
  ("fems", .property "font-emphasize-style" ["none", "accent", "dot", "circle", "disc"]),
  ("ff", .property "font-family" ["serif", "sans-serif", "cursive", "fantasy", "monospace"]),
  ("ffa", .property "font-family" ["Arial, \"Helvetica Neue\", Helvetica, sans-serif"]),
  ("fft", .property "font-family" ["\"Times New Roman\", Times, Baskerville, Georgia, serif"]),
  ("ffv", .property "font-family" ["Verdana, Geneva, sans-serif"]),
  ("fl", .property "float" ["left", "right", "none"]),
  ("fs", .property "font-style" ["italic", "normal", "oblique"]),
  ("fsm", .property "font-smoothing" ["antialiased", "subpixel-antialiased", "none"]),
  ("fst", .property "font-stretch" ["normal", "ultra-condensed", "extra-condensed", "condensed",
    "semi-condensed", "semi-expanded", "expanded", "extra-expanded", "ultra-expanded"]),
  ("fsz", .property "font-size" []),
  ("fsza", .property "font-size-adjust" []),
  ("fv", .property "font-variant" ["normal", "small-caps"]),
  ("fvs", .property "font-variation-settings" []),
  ("fw", .property "font-weight" ["normal", "bold", "bolder", "lighter"]),
  ("fx", .property "flex" []),
  ("fxb", .property "flex-basis" ["fill", "max-content", "min-content", "fit-content", "content"]),
  ("fxd", .property "flex-direction" ["row", "row-reverse", "column", "column-reverse"]),
  ("fxf", .property "flex-flow" []),
  ("fxg", .property "flex-grow" []),
  ("fxsh", .property "flex-shrink" []),
  ("fxw", .property "flex-wrap" ["nowrap", "wrap", "wrap-reverse"]),
  ("g", .property "gap" []),
  ("ga", .property "grid-area" []),
  ("gac", .property "grid-auto-columns" ["auto", "minmax()"]),
  ("gaf", .property "grid-auto-flow" ["row", "column", "dense", "inherit", "initial", "unset"]),
  ("gar", .property "grid-auto-rows" ["auto", "minmax()"]),
  ("gc", .property "grid-column" []),
  ("gce", .property "grid-column-end" []),
  ("gcg", .property "grid-column-gap" []),
  ("gcs", .property "grid-column-start" []),
  ("gd", .property "grid" []),
  ("gg", .property "grid-gap" []),
  ("gr", .property "grid-row" []),
  ("gre", .property "grid-row-end" []),
  ("grg", .property "grid-row-gap" []),
  ("grs", .property "grid-row-start" []),
  ("gt", .property "grid-template" []),
  ("gta", .property "grid-template-areas" []),
  ("gtc", .property "grid-template-columns" ["repeat($\x7b0\x7d)", "minmax()"]),
  ("gtr", .property "grid-template-rows" ["repeat($\x7b0\x7d)", "minmax()"]),
  ("h", .property "height" []),
  ("jc", .property "justify-content" ["start", "end", "stretch", "flex-start", "flex-end",
    "center", "space-between", "space-around", "space-evenly"]),
  ("ji", .property "justify-items" ["start", "end", "center", "stretch"]),
  ("js", .property "justify-self" ["start", "end", "center", "stretch"]),
  ("l", .property "left" []),
  ("lg", .property "background-image" ["linear-gradient($\x7b1\x7d)"]),
  ("lh", .property "line-height" []),
  ("lis", .property "list-style" []),
  ("lisi", .property "list-style-image" []),
  ("lisp", .property "list-style-position" ["inside", "outside"]),
  ("list", .property "list-style-type" ["disc", "circle", "square", "decimal",
    "decimal-leading-zero", "lower-roman", "upper-roman"]),
  ("lts", .property "letter-spacing" ["normal"]),
  ("m", .property "margin" []),
  ("mah", .property "max-height" []),
  ("mar", .property "max-resolution" []),
  ("maw", .property "max-width" []),
  ("mb", .property "margin-bottom" []),
  ("mih", .property "min-height" []),
  ("mir", .property "min-resolution" []),
  ("miw", .property "min-width" []),
  ("ml", .property "margin-left" []),
  ("mr", .property "margin-right" []),
  ("mt", .property "margin-top" []),
  ("ol", .property "outline" []),
  ("olc", .property "outline-color" ["$\x7b1:#000\x7d", "invert"]),
  ("olo", .property "outline-offset" []),
  ("ols", .property "outline-style" ["none", "dotted", "dashed", "solid", "double", "groove",
    "ridge", "inset", "outset"]),
  ("olw", .text "outline-width|thin|medium|thick"),
  ("op", .property "opacity" []),
  ("opa", .property "opacity" []),
  ("ord", .property "order" []),
  ("ori", .property "orientation" ["landscape", "portrait"]),
  ("orp", .property "orphans" []),
  ("ov", .property "overflow" ["hidden", "visible", "hidden", "scroll", "auto"]),
  ("ovs", .property "overflow-style" ["scrollbar", "auto", "scrollbar", "panner", "move",
    "marquee"]),
  ("ovx", .property "overflow-x" ["hidden", "visible", "hidden", "scroll", "auto"]),
  ("ovy", .property "overflow-y" ["hidden", "visible", "hidden", "scroll", "auto"]),
  ("p", .property "padding" []),
  ("pb", .property "padding-bottom" []),
  ("pgba", .property "page-break-after" ["auto", "always", "left", "right"]),
  ("pgbb", .property "page-break-before" ["auto", "always", "left", "right"]),
  ("pgbi", .property "page-break-inside" ["auto", "avoid"]),
  ("pl", .property "padding-left" []),
  ("pos", .property "position" ["relative", "absolute", "relative", "fixed", "static"]),
  ("pr", .property "padding-right" []),
  ("pt", .property "padding-top" []),
  ("qen", .property "quotes" ["'\\201C' '\\201D' '\\2018' '\\2019'"]),
  ("qru", .property "quotes" ["'\\00AB' '\\00BB' '\\201E' '\\201C'"]),
  ("r", .property "right" []),
  ("rsz", .property "resize" ["none", "both", "horizontal", "vertical"]),
  ("t", .property "top" []),
  ("ta", .property "text-align" ["left", "center", "right", "justify"]),
  ("tal", .property "text-align-last" ["left", "center", "right"]),
  ("tbl", .property "table-layout" ["fixed"]),
  ("td", .property "text-decoration" ["none", "underline", "overline", "line-through"]),
  ("te", .property "text-emphasis" ["none", "accent", "dot", "circle", "disc", "before", "after"]),
  ("th", .property "text-height" ["auto", "font-size", "text-size", "max-size"]),
  ("ti", .property "text-indent" []),
  ("tj", .property "text-justify" ["auto", "inter-word", "inter-ideograph", "inter-cluster",
    "distribute", "kashida", "tibetan"]),
  ("to", .property "text-outline" ["$\x7b1:0\x7d $\x7b2:0\x7d $\x7b3:#000\x7d"]),
  ("tov", .property "text-overflow" ["ellipsis", "clip"]),
  ("tr", .property "text-replace" []),
  ("trf", .property "transform" ["$\x7b1\x7d", "skewX($\x7b1:angle\x7d)",
    "skewY($\x7b1:angle\x7d)", "scale($\x7b1:x\x7d, $\x7b2:y\x7d)", "scaleX($\x7b1:x\x7d)",
    "scaleY($\x7b1:y\x7d)", "scaleZ($\x7b1:z\x7d)",
    "scale3d($\x7b1:x\x7d, $\x7b2:y\x7d, $\x7b3:z\x7d)", "rotate($\x7b1:angle\x7d)",
    "rotateX($\x7b1:angle\x7d)", "rotateY($\x7b1:angle\x7d)", "rotateZ($\x7b1:angle\x7d)",
    "translate($\x7b1:x\x7d, $\x7b2:y\x7d)", "translateX($\x7b1:x\x7d)",
    "translateY($\x7b1:y\x7d)", "translateZ($\x7b1:z\x7d)",
    "translate3d($\x7b1:tx\x7d, $\x7b2:ty\x7d, $\x7b3:tz\x7d)"]),
  ("trfo", .property "transform-origin" []),
  ("trfs", .property "transform-style" ["preserve-3d"]),
  ("trs", .property "transition" ["$\x7b1:prop\x7d $\x7b2:time\x7d"]),
  ("trsde", .property "transition-delay" ["$\x7b1:time\x7d"]),
  ("trsdu", .property "transition-duration" ["$\x7b1:time\x7d"]),
  ("trsp", .property "transition-property" ["$\x7b1:prop\x7d"]),
  ("trstf", .property "transition-timing-function" ["$\x7b1:fn\x7d"]),
  ("tsh", .property "text-shadow" [
    "$\x7b1:hoff\x7d $\x7b2:voff\x7d $\x7b3:blur\x7d $\x7b4:#000\x7d"]),
  ("tt", .property "text-transform" ["uppercase", "lowercase", "capitalize", "none"]),
  ("tw", .property "text-wrap" ["none", "normal", "unrestricted", "suppress"]),
  ("us", .property "user-select" ["none"]),
  ("v", .property "visibility" ["hidden", "visible", "collapse"]),
  ("va", .property "vertical-align" ["top", "super", "text-top", "middle", "baseline", "bottom",
    "text-bottom", "sub"]),
  ("w", .property "width" []),
  ("whs", .property "white-space" ["nowrap", "pre", "pre-wrap", "pre-line", "normal"]),
  ("whsc", .property "white-space-collapse" ["normal", "keep-all", "loose", "break-strict",
    "break-all"]),
  ("wid", .property "width" []),
  ("wido", .property "widows" []),
  ("wm", .property "writing-mode" ["lr-tb", "lr-tb", "lr-bt", "rl-tb", "rl-bt", "tb-rl", "tb-lr",
    "bt-lr", "bt-rl"]),
  ("wob", .property "word-break" ["normal", "keep-all", "break-all"]),
  ("wos", .property "word-spacing" []),
  ("wow", .property "word-wrap" ["none", "unrestricted", "suppress", "break-word", "normal"]),
  ("z", .property "z-index" []),
  ("zom", .property "zoom" ["1"])]

end Shorthand.Stylesheet
