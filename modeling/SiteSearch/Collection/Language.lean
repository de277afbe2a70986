/-!
# Languages

The languages that the engine has stop words and an analyzer for, by the two letters of their code.
-/
namespace SiteSearch

/-- The engine's name of a language, if it knows the code. -/
def engineLanguage? : String → Option String
  | "ar" => some "arabic"
  | "bg" => some "bulgarian"
  | "bn" => some "bengali"
  | "ca" => some "catalan"
  | "cs" => some "czech"
  | "da" => some "danish"
  | "de" => some "german"
  | "el" => some "greek"
  | "en" => some "english"
  | "es" => some "spanish"
  | "eu" => some "basque"
  | "fa" => some "persian"
  | "fi" => some "finnish"
  | "fr" => some "french"
  | "ga" => some "irish"
  | "gl" => some "galician"
  | "hi" => some "hindi"
  | "hu" => some "hungarian"
  | "hy" => some "armenian"
  | "id" => some "indonesian"
  | "it" => some "italian"
  | "ja" => some "cjk"
  | "ko" => some "cjk"
  | "lt" => some "lithuanian"
  | "lv" => some "latvian"
  | "nb" => some "norwegian"
  | "nl" => some "dutch"
  | "pt" => some "portuguese"
  | "ro" => some "romanian"
  | "ru" => some "russian"
  | "sv" => some "swedish"
  | "th" => some "thai"
  | "tr" => some "turkish"
  | "zh" => some "cjk"
  | _ => none

end SiteSearch
