/-
SerialHid.Key — the keys of a keyboard, by their names and by their usage codes: the key-code table
of SPEC_FULL §3, Event.

* `Key` — one constructor a key.
* `Key.all : List Key` — every key, by ascending usage code.
* `Key.code : Key → UInt8` — the usage code that a keyboard report carries.
* `Key.name : Key → String` — the name by which a browser's key events call the key.
* `Key.ofName? : String → Option Key` — the key of that name; names are compared exactly.
-/

namespace SerialHid

/-- The keys that a keyboard report can carry. -/
inductive Key where
  | keyA
  | keyB
  | keyC
  | keyD
  | keyE
  | keyF
  | keyG
  | keyH
  | keyI
  | keyJ
  | keyK
  | keyL
  | keyM
  | keyN
  | keyO
  | keyP
  | keyQ
  | keyR
  | keyS
  | keyT
  | keyU
  | keyV
  | keyW
  | keyX
  | keyY
  | keyZ
  | digit1
  | digit2
  | digit3
  | digit4
  | digit5
  | digit6
  | digit7
  | digit8
  | digit9
  | digit0
  | enter
  | escape
  | backspace
  | tab
  | space
  | minus
  | equal
  | bracketLeft
  | bracketRight
  | backslash
  | semicolon
  | quote
  | backquote
  | comma
  | period
  | slash
  | capsLock
  | f1
  | f2
  | f3
  | f4
  | f5
  | f6
  | f7
  | f8
  | f9
  | f10
  | f11
  | f12
  | printScreen
  | scrollLock
  | pause
  | insert
  | home
  | pageUp
  | delete
  | endKey
  | pageDown
  | arrowRight
  | arrowLeft
  | arrowDown
  | arrowUp
  | numLock
  | numpadDivide
  | numpadMultiply
  | numpadSubtract
  | numpadAdd
  | numpadEnter
  | numpad1
  | numpad2
  | numpad3
  | numpad4
  | numpad5
  | numpad6
  | numpad7
  | numpad8
  | numpad9
  | numpad0
  | numpadDecimal
  | intlBackslash
  | contextMenu
  | power
  | numpadEqual
  | f13
  | f14
  | f15
  | f16
  | f17
  | f18
  | f19
  | f20
  | f21
  | f22
  | f23
  | f24
  | audioVolumeMute
  | audioVolumeUp
  | audioVolumeDown
  | intlRo
  | kanaMode
  | intlYen
  | convert
  | nonConvert
  | controlLeft
  | shiftLeft
  | altLeft
  | metaLeft
  | controlRight
  | shiftRight
  | altRight
  | metaRight
  deriving DecidableEq, Repr

namespace Key

/-- Every key, by ascending usage code. -/
def all : List Key :=
  [keyA, keyB, keyC, keyD, keyE, keyF, keyG, keyH, keyI, keyJ, keyK, keyL, keyM, keyN, keyO,
    keyP, keyQ, keyR, keyS, keyT, keyU, keyV, keyW, keyX, keyY, keyZ, digit1, digit2, digit3,
    digit4, digit5, digit6, digit7, digit8, digit9, digit0, enter, escape, backspace, tab,
    space, minus, equal, bracketLeft, bracketRight, backslash, semicolon, quote, backquote,
    comma, period, slash, capsLock, f1, f2, f3, f4, f5, f6, f7, f8, f9, f10, f11, f12,
    printScreen, scrollLock, pause, insert, home, pageUp, delete, endKey, pageDown, arrowRight,
    arrowLeft, arrowDown, arrowUp, numLock, numpadDivide, numpadMultiply, numpadSubtract,
    numpadAdd, numpadEnter, numpad1, numpad2, numpad3, numpad4, numpad5, numpad6, numpad7,
    numpad8, numpad9, numpad0, numpadDecimal, intlBackslash, contextMenu, power, numpadEqual,
    f13, f14, f15, f16, f17, f18, f19, f20, f21, f22, f23, f24, audioVolumeMute, audioVolumeUp,
    audioVolumeDown, intlRo, kanaMode, intlYen, convert, nonConvert, controlLeft, shiftLeft,
    altLeft, metaLeft, controlRight, shiftRight, altRight, metaRight]

/-- The usage code of a key. -/
def code : Key → UInt8
  | keyA => 0x04
  | keyB => 0x05
  | keyC => 0x06
  | keyD => 0x07
  | keyE => 0x08
  | keyF => 0x09
  | keyG => 0x0A
  | keyH => 0x0B
  | keyI => 0x0C
  | keyJ => 0x0D
  | keyK => 0x0E
  | keyL => 0x0F
  | keyM => 0x10
  | keyN => 0x11
  | keyO => 0x12
  | keyP => 0x13
  | keyQ => 0x14
  | keyR => 0x15
  | keyS => 0x16
  | keyT => 0x17
  | keyU => 0x18
  | keyV => 0x19
  | keyW => 0x1A
  | keyX => 0x1B
  | keyY => 0x1C
  | keyZ => 0x1D
  | digit1 => 0x1E
  | digit2 => 0x1F
  | digit3 => 0x20
  | digit4 => 0x21
  | digit5 => 0x22
  | digit6 => 0x23
  | digit7 => 0x24
  | digit8 => 0x25
  | digit9 => 0x26
  | digit0 => 0x27
  | enter => 0x28
  | escape => 0x29
  | backspace => 0x2A
  | tab => 0x2B
  | space => 0x2C
  | minus => 0x2D
  | equal => 0x2E
  | bracketLeft => 0x2F
  | bracketRight => 0x30
  | backslash => 0x31
  | semicolon => 0x33
  | quote => 0x34
  | backquote => 0x35
  | comma => 0x36
  | period => 0x37
  | slash => 0x38
  | capsLock => 0x39
  | f1 => 0x3A
  | f2 => 0x3B
  | f3 => 0x3C
  | f4 => 0x3D
  | f5 => 0x3E
  | f6 => 0x3F
  | f7 => 0x40
  | f8 => 0x41
  | f9 => 0x42
  | f10 => 0x43
  | f11 => 0x44
  | f12 => 0x45
  | printScreen => 0x46
  | scrollLock => 0x47
  | pause => 0x48
  | insert => 0x49
  | home => 0x4A
  | pageUp => 0x4B
  | delete => 0x4C
  | endKey => 0x4D
  | pageDown => 0x4E
  | arrowRight => 0x4F
  | arrowLeft => 0x50
  | arrowDown => 0x51
  | arrowUp => 0x52
  | numLock => 0x53
  | numpadDivide => 0x54
  | numpadMultiply => 0x55
  | numpadSubtract => 0x56
  | numpadAdd => 0x57
  | numpadEnter => 0x58
  | numpad1 => 0x59
  | numpad2 => 0x5A
  | numpad3 => 0x5B
  | numpad4 => 0x5C
  | numpad5 => 0x5D
  | numpad6 => 0x5E
  | numpad7 => 0x5F
  | numpad8 => 0x60
  | numpad9 => 0x61
  | numpad0 => 0x62
  | numpadDecimal => 0x63
  | intlBackslash => 0x64
  | contextMenu => 0x65
  | power => 0x66
  | numpadEqual => 0x67
  | f13 => 0x68
  | f14 => 0x69
  | f15 => 0x6A
  | f16 => 0x6B
  | f17 => 0x6C
  | f18 => 0x6D
  | f19 => 0x6E
  | f20 => 0x6F
  | f21 => 0x70
  | f22 => 0x71
  | f23 => 0x72
  | f24 => 0x73
  | audioVolumeMute => 0x7F
  | audioVolumeUp => 0x80
  | audioVolumeDown => 0x81
  | intlRo => 0x87
  | kanaMode => 0x88
  | intlYen => 0x89
  | convert => 0x8A
  | nonConvert => 0x8B
  | controlLeft => 0xE0
  | shiftLeft => 0xE1
  | altLeft => 0xE2
  | metaLeft => 0xE3
  | controlRight => 0xE4
  | shiftRight => 0xE5
  | altRight => 0xE6
  | metaRight => 0xE7

/-- The name of a key. -/
def name : Key → String
  | keyA => "KeyA"
  | keyB => "KeyB"
  | keyC => "KeyC"
  | keyD => "KeyD"
  | keyE => "KeyE"
  | keyF => "KeyF"
  | keyG => "KeyG"
  | keyH => "KeyH"
  | keyI => "KeyI"
  | keyJ => "KeyJ"
  | keyK => "KeyK"
  | keyL => "KeyL"
  | keyM => "KeyM"
  | keyN => "KeyN"
  | keyO => "KeyO"
  | keyP => "KeyP"
  | keyQ => "KeyQ"
  | keyR => "KeyR"
  | keyS => "KeyS"
  | keyT => "KeyT"
  | keyU => "KeyU"
  | keyV => "KeyV"
  | keyW => "KeyW"
  | keyX => "KeyX"
  | keyY => "KeyY"
  | keyZ => "KeyZ"
  | digit1 => "Digit1"
  | digit2 => "Digit2"
  | digit3 => "Digit3"
  | digit4 => "Digit4"
  | digit5 => "Digit5"
  | digit6 => "Digit6"
  | digit7 => "Digit7"
  | digit8 => "Digit8"
  | digit9 => "Digit9"
  | digit0 => "Digit0"
  | enter => "Enter"
  | escape => "Escape"
  | backspace => "Backspace"
  | tab => "Tab"
  | space => "Space"
  | minus => "Minus"
  | equal => "Equal"
  | bracketLeft => "BracketLeft"
  | bracketRight => "BracketRight"
  | backslash => "Backslash"
  | semicolon => "Semicolon"
  | quote => "Quote"
  | backquote => "Backquote"
  | comma => "Comma"
  | period => "Period"
  | slash => "Slash"
  | capsLock => "CapsLock"
  | f1 => "F1"
  | f2 => "F2"
  | f3 => "F3"
  | f4 => "F4"
  | f5 => "F5"
  | f6 => "F6"
  | f7 => "F7"
  | f8 => "F8"
  | f9 => "F9"
  | f10 => "F10"
  | f11 => "F11"
  | f12 => "F12"
  | printScreen => "PrintScreen"
  | scrollLock => "ScrollLock"
  | pause => "Pause"
  | insert => "Insert"
  | home => "Home"
  | pageUp => "PageUp"
  | delete => "Delete"
  | endKey => "End"
  | pageDown => "PageDown"
  | arrowRight => "ArrowRight"
  | arrowLeft => "ArrowLeft"
  | arrowDown => "ArrowDown"
  | arrowUp => "ArrowUp"
  | numLock => "NumLock"
  | numpadDivide => "NumpadDivide"
  | numpadMultiply => "NumpadMultiply"
  | numpadSubtract => "NumpadSubtract"
  | numpadAdd => "NumpadAdd"
  | numpadEnter => "NumpadEnter"
  | numpad1 => "Numpad1"
  | numpad2 => "Numpad2"
  | numpad3 => "Numpad3"
  | numpad4 => "Numpad4"
  | numpad5 => "Numpad5"
  | numpad6 => "Numpad6"
  | numpad7 => "Numpad7"
  | numpad8 => "Numpad8"
  | numpad9 => "Numpad9"
  | numpad0 => "Numpad0"
  | numpadDecimal => "NumpadDecimal"
  | intlBackslash => "IntlBackslash"
  | contextMenu => "ContextMenu"
  | power => "Power"
  | numpadEqual => "NumpadEqual"
  | f13 => "F13"
  | f14 => "F14"
  | f15 => "F15"
  | f16 => "F16"
  | f17 => "F17"
  | f18 => "F18"
  | f19 => "F19"
  | f20 => "F20"
  | f21 => "F21"
  | f22 => "F22"
  | f23 => "F23"
  | f24 => "F24"
  | audioVolumeMute => "AudioVolumeMute"
  | audioVolumeUp => "AudioVolumeUp"
  | audioVolumeDown => "AudioVolumeDown"
  | intlRo => "IntlRo"
  | kanaMode => "KanaMode"
  | intlYen => "IntlYen"
  | convert => "Convert"
  | nonConvert => "NonConvert"
  | controlLeft => "ControlLeft"
  | shiftLeft => "ShiftLeft"
  | altLeft => "AltLeft"
  | metaLeft => "MetaLeft"
  | controlRight => "ControlRight"
  | shiftRight => "ShiftRight"
  | altRight => "AltRight"
  | metaRight => "MetaRight"

/-- The key with this name, if there is one. -/
def ofName? (text : String) : Option Key := all.find? (·.name == text)

end Key

end SerialHid
