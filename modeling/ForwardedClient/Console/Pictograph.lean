import ForwardedClient.Text.Blank
import ForwardedClient.Text.Case
import ForwardedClient.Text.CodeRanges

/-!
Contract: pictographs that are written as a name between colons.

Owns: the short names, the reader of one name with its optional choice of presentation, and
the replacement of all names in a text.

Does not own: style tags. A name holds no blank; what is not a known name stays as it is.
-/

namespace ForwardedClient.Console

open ForwardedClient.Text

/-- Names of up to four characters with the code points they stand for. -/
def pictographLines : List String :=
  ["+1:1F44D -1:1F44E 100:1F4AF 1234:1F522 __1:1F44E a:1F170 ab:1F18E abc:1F524 abcd:1F521",
    "ant:1F41C art:1F3A8 atm:1F3E7 axe:1FA93 b:1F171 baby:1F476 back:1F519 bald:1F9B2",
    "bank:1F3E6 bat:1F987 bath:1F6C0 bear:1F43B bed:1F6CF bee:1F41D beer:1F37A bell:1F514",
    "bike:1F6B2 bird:1F426 boar:1F417 boat:26F5 bomb:1F4A3 bone:1F9B4 book:1F4D6 boom:1F4A5",
    "boot:1F462 bow:1F647 boy:1F466 bug:1F41B bulb:1F4A1 bus:1F68C cake:1F370 car:1F697",
    "cat:1F431 cat2:1F408 cd:1F4BF chad:1F1F9,1F1E9 cl:1F191 clap:1F44F coat:1F9E5 cool:1F192",
    "cop:1F46E corn:1F33D cow:1F42E cow2:1F404 crab:1F980 cry:1F622 cuba:1F1E8,1F1FA",
    "dart:1F3AF dash:1F4A8 date:1F4C5 deer:1F98C dna:1F9EC dog:1F436 dog2:1F415 door:1F6AA",
    "dove:1F54A drum:1F941 duck:1F986 dvd:1F4C0 ear:1F442 egg:1F373 elf:1F9DD end:1F51A",
    "euro:1F4B6 ewe:1F411 eye:1F441 eyes:1F440 fax:1F4E0 feet:1F43E fiji:1F1EB,1F1EF",
    "fire:1F525 fish:1F41F fist:270A five:35,FE0F,20E3 fog:1F32B foot:1F9B6 four:34,FE0F,20E3",
    "free:1F193 frog:1F438 gear:2699 gem:1F48E gift:1F381 girl:1F467 goat:1F410 golf:26F3",
    "grin:1F601 guam:1F1EC,1F1FA gun:1F52B hand:270B herb:1F33F hole:1F573 ice:1F9CA id:1F194",
    "imp:1F47F iran:1F1EE,1F1F7 iraq:1F1EE,1F1F6 joy:1F602 key:1F511 kiss:1F48B kite:1FA81",
    "koko:1F201 laos:1F1F1,1F1E6 leg:1F9B5 leo:264C link:1F517 lips:1F444 lock:1F512",
    "loop:27BF m:24C2 mag:1F50D mage:1F9D9 mali:1F1F2,1F1F1 man:1F468 mask:1F637 mate:1F9C9",
    "mega:1F4E3 memo:1F4DD mens:1F6B9 moai:1F5FF moon:1F314 mute:1F507 new:1F195 ng:1F196",
    "nine:39,FE0F,20E3 niue:1F1F3,1F1FA nose:1F443 o:2B55 o2:1F17E oden:1F362 ogre:1F479",
    "ok:1F197 om:1F549 oman:1F1F4,1F1F2 on:1F51B one:31,FE0F,20E3 owl:1F989 ox:1F402",
    "pear:1F350 pen:1F58A peru:1F1F5,1F1EA pick:26CF pie:1F967 pig:1F437 pig2:1F416",
    "pill:1F48A poop:1F4A9 pray:1F64F rage:1F621 ram:1F40F rat:1F400 rice:1F35A ring:1F48D",
    "rose:1F339 sa:1F202 sake:1F376 salt:1F9C2 sari:1F97B seat:1F4BA ship:1F6A2 shit:1F4A9",
    "shoe:1F45E six:36,FE0F,20E3 ski:1F3BF skis:1F3BF sled:1F6F7 soap:1F9FC sob:1F62D",
    "soon:1F51C sos:1F198 star:2B50 stew:1F372 sun:2600 swan:1F9A2 taco:1F32E tada:1F389",
    "taxi:1F695 tea:1F375 ten:1F51F tent:26FA tm:2122 togo:1F1F9,1F1EC top:1F51D tram:1F68A",
    "tv:1F4FA two:32,FE0F,20E3 up:1F199 v:270C vhs:1F4FC vs:1F19A wave:1F44B wc:1F6BE",
    "wink:1F609 wolf:1F43A x:274C yarn:1F9F6 yen:1F4B4 yum:1F60B zap:26A1 zero:30,FE0F,20E3",
    "zzz:1F4A4"]

def readPictograph (entry : List Char) : List Char × List Char :=
  let (name, codes) := partitionAt (· == ':') entry
  (name, (pieces (· == ',') (codes.getD [])).map fun code => Char.ofNat (hexValue code))

def pictographs : List (List Char × List Char) := (entriesOf pictographLines).map readPictograph

/-- The endings of a name that choose how it is presented, with the selectors for them. -/
def presentations : List (List Char × Char) :=
  [("-emoji".toList, '\uFE0F'), ("-text".toList, '\uFE0E')]

/-- A name without its choice of presentation, and the selector for it. -/
def splitPresentation (name : List Char) : List Char × List Char :=
  match presentations.find? fun entry => entry.1.isSuffixOf name with
  | some (ending, selector) => (name.take (name.length - ending.length), [selector])
  | none => (name, [])

def pictograph? (name : List Char) : Option (List Char) :=
  let (plain, selector) := splitPresentation name
  let key := (lower (String.ofList plain)).toList
  (pictographs.find? fun entry => entry.1 == key).map fun entry => entry.2 ++ selector

/-- The text after a colon, given as its parts between colons. -/
def replaceNames : List (List Char) → List Char
  | [] => []
  | [last] => ':' :: last
  | name :: next :: rest =>
    if name.any isBlank then ':' :: name ++ replaceNames (next :: rest)
    else (pictograph? name).getD (':' :: name ++ [':']) ++ next ++ replaceNames rest

def withPictographs (text : List Char) : List Char :=
  match pieces (· == ':') text with
  | [] => text
  | first :: rest => first ++ replaceNames rest

end ForwardedClient.Console
