import SlidePress.Layout.Markup

/-!
The slide that all slides are made after, the one empty layout between it and them, and the theme
of both. They are the same in every package.
-/

namespace SlidePress.Master

open Xml (Node tag)

/-- The colors that a theme has names for, as the master uses them. -/
def colorMap : List (String × String) := [
  ("bg1", "lt1"), ("tx1", "dk1"), ("bg2", "lt2"), ("tx2", "dk2"), ("accent1", "accent1"),
  ("accent2", "accent2"), ("accent3", "accent3"), ("accent4", "accent4"),
  ("accent5", "accent5"), ("accent6", "accent6"), ("hlink", "hlink"), ("folHlink", "folHlink")]

def textStyle (name size : String) : Node :=
  tag name [] [tag "a:lvl1pPr" [] [tag "a:defRPr" [("sz", size)]]]

/-- The master; its only layout is the first of its relationships. -/
def slideMaster : Node :=
  tag "p:sldMaster" slideNamespaces [
    tag "p:cSld" [] [
      tag "p:bg" [] [tag "p:bgRef" [("idx", "1001")] [tag "a:schemeClr" [("val", "bg1")]]],
      shapeTree []],
    tag "p:clrMap" colorMap,
    tag "p:sldLayoutIdLst" [] [tag "p:sldLayoutId" [("id", "2147483649"), ("r:id", "rId1")]],
    tag "p:txStyles" [] [textStyle "p:titleStyle" "4400", textStyle "p:bodyStyle" "2800",
      textStyle "p:otherStyle" "1800"]]

def slideLayout : Node :=
  tag "p:sldLayout" (slideNamespaces ++ [("type", "blank"), ("preserve", "1")]) [
    tag "p:cSld" [("name", "Blank")] [shapeTree []],
    inheritedColors]

def themeColor (name hex : String) : Node :=
  tag name [] [tag "a:srgbClr" [("val", hex)]]

def systemColor (name value last : String) : Node :=
  tag name [] [tag "a:sysClr" [("val", value), ("lastClr", last)]]

def colorScheme : Node :=
  tag "a:clrScheme" [("name", "Deckhand")] [
    systemColor "a:dk1" "windowText" "000000", systemColor "a:lt1" "window" "FFFFFF",
    themeColor "a:dk2" "212121", themeColor "a:lt2" "FAFAFA",
    themeColor "a:accent1" "0066CC", themeColor "a:accent2" "FF5722",
    themeColor "a:accent3" "4CAF50", themeColor "a:accent4" "FFC107",
    themeColor "a:accent5" "F44336", themeColor "a:accent6" "282C34",
    themeColor "a:hlink" "0066CC", themeColor "a:folHlink" "954F72"]

/-- The fonts for one kind of text; other scripts have none of their own. -/
def themeFont (name typeface : String) : Node :=
  tag name [] [tag "a:latin" [("typeface", typeface)], tag "a:ea" [("typeface", "")],
    tag "a:cs" [("typeface", "")]]

def fontScheme : Node :=
  tag "a:fontScheme" [("name", "Deckhand")] [
    themeFont "a:majorFont" "Calibri Light", themeFont "a:minorFont" "Calibri"]

/-- An area in the color that the style is asked for. -/
def placeholderFill : Node :=
  tag "a:solidFill" [] [tag "a:schemeClr" [("val", "phClr")]]

def formatScheme : Node :=
  let line (width : String) := tag "a:ln" [("w", width)] [placeholderFill]
  let effect := tag "a:effectStyle" [] [tag "a:effectLst"]
  tag "a:fmtScheme" [("name", "Deckhand")] [
    tag "a:fillStyleLst" [] [placeholderFill, placeholderFill, placeholderFill],
    tag "a:lnStyleLst" [] [line "6350", line "12700", line "19050"],
    tag "a:effectStyleLst" [] [effect, effect, effect],
    tag "a:bgFillStyleLst" [] [placeholderFill, placeholderFill, placeholderFill]]

def theme : Node :=
  tag "a:theme" [("xmlns:a", "http://schemas.openxmlformats.org/drawingml/2006/main"),
      ("name", "Deckhand")] [
    tag "a:themeElements" [] [colorScheme, fontScheme, formatScheme],
    tag "a:objectDefaults",
    tag "a:extraClrSchemeLst"]

end SlidePress.Master
