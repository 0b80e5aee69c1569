import BrowserWait.Text.Split

/-!
# Resolving URLs

A URL relative to a base, as a browser resolves a link: an absolute URL is kept, a network path keeps the scheme, a
rooted path keeps the origin, and anything else stands in the directory of the base's path.
-/

namespace BrowserWait.Url

/-- What stands between a scheme and an authority. -/
def schemeMark : List Char := [':', '/', '/']

/-- The directory of a base's path, without query and fragment: up to its last slash, or the root. -/
def directory (path : List Char) : List Char :=
  let plain := path.takeWhile fun c => c != '?' && c != '#'
  match plain.reverse.dropWhile (· != '/') with
  | [] => ['/']
  | upToSlash => upToSlash.reverse

/-- A URL resolved against a base. -/
def resolveChars (base url : List Char) : List Char :=
  if Text.contains schemeMark url then url
  else
    match Text.cut? schemeMark base with
    | none => url
    | some (scheme, rest) =>
      match Text.after? ['/', '/'] url with
      | some networkPath => scheme ++ schemeMark ++ networkPath
      | none =>
        let origin := scheme ++ schemeMark ++ rest.takeWhile (· != '/')
        let path := rest.dropWhile (· != '/')
        match url with
        | [] => base
        | '/' :: _ => origin ++ url
        | _ => origin ++ directory path ++ url

/-- A URL resolved against a base. -/
def resolve (base url : String) : String := String.ofList (resolveChars base.toList url.toList)

/-- A URL resolved against a base, if there is one. -/
def resolveIn (base : Option String) (url : String) : String :=
  match base with
  | some base => resolve base url
  | none => url

/-- A URL without the slashes it ends with. -/
def withoutTrailingSlashes (url : String) : String :=
  String.ofList (url.toList.reverse.dropWhile (· == '/')).reverse

end BrowserWait.Url
