set_option relaxedAutoImplicit false
set_option autoImplicit false

/-!
# The palette

The names of the colors of a terminal, and the styles that have names of their own.

## Main definitions

* `ParseBench.Console.colorTable` — the names of colors, each followed by its number.
* `ParseBench.Console.themeTable` — the names of styles and their definitions.
-/

namespace ParseBench.Console

/-- The names of colors, each followed by its number in hexadecimal. -/
def colorTable : String :=
  "black 0 red 1 green 2 yellow 3 blue 4 magenta 5 cyan 6 white 7 bright_black 8 bright_red 9
  bright_green A bright_yellow B bright_blue C bright_magenta D bright_cyan E bright_white F
  grey0 10 gray0 10 navy_blue 11 dark_blue 12 blue3 14 blue1 15 dark_green 16
  deep_sky_blue4 19 dodger_blue3 1A dodger_blue2 1B green4 1C spring_green4 1D turquoise4 1E
  deep_sky_blue3 20 dodger_blue1 21 green3 28 spring_green3 29 dark_cyan 24 light_sea_green 25
  deep_sky_blue2 26 deep_sky_blue1 27 spring_green2 2F cyan3 2B dark_turquoise 2C
  turquoise2 2D green1 2E spring_green1 30 medium_spring_green 31 cyan2 32 cyan1 33
  dark_red 58 deep_pink4 7D purple4 37 purple3 38 blue_violet 39 orange4 5E grey37 3B
  gray37 3B medium_purple4 3C slate_blue3 3E royal_blue1 3F chartreuse4 40 dark_sea_green4 47
  pale_turquoise4 42 steel_blue 43 steel_blue3 44 cornflower_blue 45 chartreuse3 4C
  cadet_blue 49 sky_blue3 4A steel_blue1 51 pale_green3 72 sea_green3 4E aquamarine3 4F
  medium_turquoise 50 chartreuse2 70 sea_green2 53 sea_green1 55 aquamarine1 7A
  dark_slate_gray2 57 dark_magenta 5B dark_violet 80 purple 81 light_pink4 5F plum4 60
  medium_purple3 62 slate_blue1 63 yellow4 6A wheat4 65 grey53 66 gray53 66
  light_slate_grey 67 light_slate_gray 67 medium_purple 68 light_slate_blue 69
  dark_olive_green3 95 dark_sea_green 6C light_sky_blue3 6E sky_blue2 6F dark_sea_green3 96
  dark_slate_gray3 74 sky_blue1 75 chartreuse1 76 light_green 78 pale_green1 9C
  dark_slate_gray1 7B red3 A0 medium_violet_red 7E magenta3 A4 dark_orange3 A6 indian_red A7
  hot_pink3 A8 medium_orchid3 85 medium_orchid 86 medium_purple2 8C dark_goldenrod 88
  light_salmon3 AD rosy_brown 8A grey63 8B gray63 8B medium_purple1 8D gold3 B2 dark_khaki 8F
  navajo_white3 90 grey69 91 gray69 91 light_steel_blue3 92 light_steel_blue 93 yellow3 B8
  dark_sea_green2 9D light_cyan3 98 light_sky_blue1 99 green_yellow 9A dark_olive_green2 9B
  dark_sea_green1 C1 pale_turquoise1 9F deep_pink3 A2 magenta2 C8 hot_pink2 A9 orchid AA
  medium_orchid1 CF orange3 AC light_pink3 AE pink3 AF plum3 B0 violet B1 light_goldenrod3 B3
  tan B4 misty_rose3 B5 thistle3 B6 plum2 B7 khaki3 B9 light_goldenrod2 DE light_yellow3 BB
  grey84 BC gray84 BC light_steel_blue1 BD yellow2 BE dark_olive_green1 C0 honeydew2 C2
  light_cyan1 C3 red1 C4 deep_pink2 C5 deep_pink1 C7 magenta1 C9 orange_red1 CA indian_red1 CC
  hot_pink CE dark_orange D0 salmon1 D1 light_coral D2 pale_violet_red1 D3 orchid2 D4
  orchid1 D5 orange1 D6 sandy_brown D7 light_salmon1 D8 light_pink1 D9 pink1 DA plum1 DB
  gold1 DC navajo_white1 DF misty_rose1 E0 thistle1 E1 yellow1 E2 light_goldenrod1 E3
  khaki1 E4 wheat1 E5 cornsilk1 E6 grey100 E7 gray100 E7 grey3 E8 gray3 E8 grey7 E9 gray7 E9
  grey11 EA gray11 EA grey15 EB gray15 EB grey19 EC gray19 EC grey23 ED gray23 ED grey27 EE
  gray27 EE grey30 EF gray30 EF grey35 F0 gray35 F0 grey39 F1 gray39 F1 grey42 F2 gray42 F2
  grey46 F3 gray46 F3 grey50 F4 gray50 F4 grey54 F5 gray54 F5 grey58 F6 gray58 F6 grey62 F7
  gray62 F7 grey66 F8 gray66 F8 grey70 F9 gray70 F9 grey74 FA gray74 FA grey78 FB gray78 FB
  grey82 FC gray82 FC grey85 FD gray85 FD grey89 FE gray89 FE grey93 FF gray93 FF"

/-- The names of styles and their definitions. -/
def themeTable : List (String × String) :=
  [("none", "none"),
   ("reset", "not bold not dim not italic not underline not blink not blink2 not reverse not conceal not strike default on default"),
   ("dim", "dim"), ("bright", "not dim"), ("bold", "bold"), ("strong", "bold"),
   ("code", "bold reverse"), ("italic", "italic"), ("emphasize", "italic"),
   ("underline", "underline"), ("blink", "blink"), ("blink2", "blink2"), ("reverse", "reverse"),
   ("strike", "strike"), ("black", "black"), ("red", "red"), ("green", "green"),
   ("yellow", "yellow"), ("magenta", "magenta"), ("cyan", "cyan"), ("white", "white"),
   ("inspect.attr", "italic yellow"), ("inspect.attr.dunder", "dim italic yellow"),
   ("inspect.callable", "bold red"), ("inspect.async_def", "italic bright_cyan"),
   ("inspect.def", "italic bright_cyan"), ("inspect.class", "italic bright_cyan"),
   ("inspect.error", "bold red"), ("inspect.equals", "none"), ("inspect.help", "cyan"),
   ("inspect.doc", "dim"), ("inspect.value.border", "green"), ("live.ellipsis", "bold red"),
   ("layout.tree.row", "not dim red"), ("layout.tree.column", "not dim blue"),
   ("logging.keyword", "bold yellow"), ("logging.level.notset", "dim"),
   ("logging.level.debug", "green"), ("logging.level.info", "blue"),
   ("logging.level.warning", "red"), ("logging.level.error", "bold red"),
   ("logging.level.critical", "bold reverse red"), ("log.level", "none"), ("log.time", "dim cyan"),
   ("log.message", "none"), ("log.path", "dim"), ("repr.ellipsis", "yellow"),
   ("repr.indent", "dim green"), ("repr.error", "bold red"),
   ("repr.str", "not bold not italic green"), ("repr.brace", "bold"), ("repr.comma", "bold"),
   ("repr.ipv4", "bold bright_green"), ("repr.ipv6", "bold bright_green"),
   ("repr.eui48", "bold bright_green"), ("repr.eui64", "bold bright_green"),
   ("repr.tag_start", "bold"), ("repr.tag_name", "bold bright_magenta"),
   ("repr.tag_contents", "default"), ("repr.tag_end", "bold"),
   ("repr.attrib_name", "not italic yellow"), ("repr.attrib_equal", "bold"),
   ("repr.attrib_value", "not italic magenta"), ("repr.number", "bold not italic cyan"),
   ("repr.number_complex", "bold not italic cyan"), ("repr.bool_true", "italic bright_green"),
   ("repr.bool_false", "italic bright_red"), ("repr.none", "italic magenta"),
   ("repr.url", "not bold not italic underline bright_blue"),
   ("repr.uuid", "not bold bright_yellow"), ("repr.call", "bold magenta"),
   ("repr.path", "magenta"), ("repr.filename", "bright_magenta"), ("rule.line", "bright_green"),
   ("rule.text", "none"), ("json.brace", "bold"), ("json.bool_true", "italic bright_green"),
   ("json.bool_false", "italic bright_red"), ("json.null", "italic magenta"),
   ("json.number", "bold not italic cyan"), ("json.str", "not bold not italic green"),
   ("json.key", "bold blue"), ("prompt", "none"), ("prompt.choices", "bold magenta"),
   ("prompt.default", "bold cyan"), ("prompt.invalid", "red"), ("prompt.invalid.choice", "red"),
   ("pretty", "none"), ("scope.border", "blue"), ("scope.key", "italic yellow"),
   ("scope.key.special", "dim italic yellow"), ("scope.equals", "red"), ("table.header", "bold"),
   ("table.footer", "bold"), ("table.cell", "none"), ("table.title", "italic"),
   ("table.caption", "dim italic"), ("traceback.error", "italic red"),
   ("traceback.border.syntax_error", "bright_red"), ("traceback.border", "red"),
   ("traceback.text", "none"), ("traceback.title", "bold red"),
   ("traceback.exc_type", "bold bright_red"), ("traceback.exc_value", "none"),
   ("traceback.offset", "bold bright_red"), ("bar.back", "grey23"),
   ("bar.complete", "rgb(249,38,114)"), ("bar.finished", "rgb(114,156,31)"),
   ("bar.pulse", "rgb(249,38,114)"), ("progress.description", "none"),
   ("progress.filesize", "green"), ("progress.filesize.total", "green"),
   ("progress.download", "green"), ("progress.elapsed", "yellow"),
   ("progress.percentage", "magenta"), ("progress.remaining", "cyan"),
   ("progress.data.speed", "red"), ("progress.spinner", "green"), ("status.spinner", "green"),
   ("tree", "none"), ("tree.line", "none"), ("markdown.paragraph", "none"),
   ("markdown.text", "none"), ("markdown.em", "italic"), ("markdown.emph", "italic"),
   ("markdown.strong", "bold"), ("markdown.code", "bold cyan on black"),
   ("markdown.code_block", "cyan on black"), ("markdown.block_quote", "magenta"),
   ("markdown.list", "cyan"), ("markdown.item", "none"), ("markdown.item.bullet", "bold yellow"),
   ("markdown.item.number", "bold yellow"), ("markdown.hr", "yellow"),
   ("markdown.h1.border", "none"), ("markdown.h1", "bold"), ("markdown.h2", "bold underline"),
   ("markdown.h3", "bold"), ("markdown.h4", "bold dim"), ("markdown.h5", "underline"),
   ("markdown.h6", "italic"), ("markdown.h7", "dim italic"), ("markdown.link", "bright_blue"),
   ("markdown.link_url", "underline blue"), ("markdown.s", "strike"), ("iso8601.date", "blue"),
   ("iso8601.time", "magenta"), ("iso8601.timezone", "yellow"), ("info", "blue"),
   ("success", "bold green"), ("warning", "bold yellow"), ("error", "bold red"),
   ("step", "bold cyan")]

end ParseBench.Console
