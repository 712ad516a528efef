/-!
The network tags of `Protocol.h` that the two servers read, and the tables of
`Factory::create` and `ManagementServer::getReceivedDataHandlerFactory` that say
which of them each server knows.
-/

namespace EasyViewer

namespace Tag

def clean : UInt32 := 0
def requestEcho : UInt32 := 1
def requestLogin : UInt32 := 101
def requestSubscribeScreen : UInt32 := 201
def responseSubscribeScreen2 : UInt32 := 204
def publishScreenFrame : UInt32 := 205
def publishCursorPosition : UInt32 := 206
def controlKeyPress : UInt32 := 207
def controlKeyRelease : UInt32 := 208
def controlMouseMove : UInt32 := 209
def controlMouseButtonPress : UInt32 := 210
def controlMouseButtonRelease : UInt32 := 211
def controlMouseButtonDoubleClick : UInt32 := 212
def controlMouseWheel : UInt32 := 213
def controlSetClipboardText : UInt32 := 214
def shortcut : UInt32 := 216
def requestVisitFiles : UInt32 := 301
def responseVisitFiles2 : UInt32 := 304
def requestMakeDirectory : UInt32 := 305
def responseMakeDirectory : UInt32 := 306
def requestDeleteEntry : UInt32 := 307
def responseDeleteEntry : UInt32 := 308
def requestRenameEntry : UInt32 := 309
def responseRenameEntry : UInt32 := 310
def requestVisitingPathGoUp : UInt32 := 311
def responseVisitingPathGoUp : UInt32 := 312
def requestVisitingPathGoHome : UInt32 := 313
def responseVisitingPathGoHome : UInt32 := 314
def requestListEntries : UInt32 := 315
def responseListEntries : UInt32 := 316
def requestOpenFile : UInt32 := 317
def responseOpenFile : UInt32 := 318
def requestWriteFileBlock : UInt32 := 319
def responseWriteFileBlock : UInt32 := 320
def requestReadFileBlock : UInt32 := 321
def responseReadFileBlock : UInt32 := 322
def closeFile : UInt32 := 323
def requestCreateTerminal : UInt32 := 401
def responseCreateTerminal2 : UInt32 := 404
def resizeTerminal : UInt32 := 405
def writeCommandToTerminal : UInt32 := 406
def publishTerminalOutput : UInt32 := 407
def kickoutVisitorTerminal : UInt32 := 409
def requestListAccount : UInt32 := 501
def requestAddAccount : UInt32 := 503
def requestEnableAccount : UInt32 := 505
def requestDisableAccount : UInt32 := 507
def requestDeleteAccount : UInt32 := 509
def requestChangeAccountPassword : UInt32 := 511
def requestListBlockedIPAddresses : UInt32 := 513
def requestRemoveBlockedIPAddress : UInt32 := 515
def requestAddBlockedIPAddress : UInt32 := 517
def requestListBlockedAccounts : UInt32 := 519
def requestRemoveBlockedAccount : UInt32 := 521
def requestAddBlockedAccount : UInt32 := 523
def responseEcho : UInt32 := 2
def responseLogin : UInt32 := 102
def responseSubscribeScreen : UInt32 := 202
def requestSubscribeScreen2 : UInt32 := 203
def controlSetAutoPublishDesktop : UInt32 := 215
def responseVisitFiles : UInt32 := 302
def requestVisitFiles2 : UInt32 := 303
def responseCreateTerminal : UInt32 := 402
def requestCreateTerminal2 : UInt32 := 403
def closeTerminal : UInt32 := 408
def responseListAccount : UInt32 := 502
def responseAddAccount : UInt32 := 504
def responseEnableAccount : UInt32 := 506
def responseDisableAccount : UInt32 := 508
def responseDeleteAccount : UInt32 := 510
def responseChangeAccountPassword : UInt32 := 512
def responseListBlockedIPAddresses : UInt32 := 514
def responseRemoveBlockedIPAddress : UInt32 := 516
def responseAddBlockedIPAddress : UInt32 := 518
def responseListBlockedAccounts : UInt32 := 520
def responseRemoveBlockedAccount : UInt32 := 522
def responseAddBlockedAccount : UInt32 := 524

end Tag

inductive ServerKind where
  | application
  | management
  deriving DecidableEq, Repr

open Tag in
def handledTags : ServerKind → List UInt32
  | .application => [
      requestEcho, requestLogin, publishScreenFrame, publishCursorPosition,
      requestSubscribeScreen, responseSubscribeScreen2, controlMouseMove, controlKeyPress,
      controlKeyRelease, controlMouseButtonPress, controlMouseButtonRelease,
      controlMouseButtonDoubleClick, controlMouseWheel, controlSetClipboardText, shortcut,
      requestVisitFiles, responseVisitFiles2, requestOpenFile, responseOpenFile,
      requestReadFileBlock, responseReadFileBlock, requestWriteFileBlock, responseWriteFileBlock,
      closeFile, requestMakeDirectory, responseMakeDirectory, requestDeleteEntry,
      responseDeleteEntry, requestRenameEntry, responseRenameEntry, requestVisitingPathGoUp,
      responseVisitingPathGoUp, requestVisitingPathGoHome, responseVisitingPathGoHome,
      requestListEntries, responseListEntries, requestCreateTerminal, publishTerminalOutput,
      responseCreateTerminal2, writeCommandToTerminal, resizeTerminal, kickoutVisitorTerminal]
  | .management => [
      requestLogin, requestListAccount, requestAddAccount, requestEnableAccount,
      requestDisableAccount, requestChangeAccountPassword, requestDeleteAccount,
      requestListBlockedIPAddresses, requestRemoveBlockedIPAddress, requestAddBlockedIPAddress,
      requestListBlockedAccounts, requestRemoveBlockedAccount, requestAddBlockedAccount]

def receivedDataHandlerFactory (kind : ServerKind) (tag : UInt32) : Bool :=
  (handledTags kind).contains tag

theorem factory_clean (kind : ServerKind) : receivedDataHandlerFactory kind Tag.clean = false := by
  cases kind <;> decide

end EasyViewer
