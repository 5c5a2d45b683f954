import Spooler.Broker.Valores
import Spooler.Driver.Totalizadores

/-!
# The numbers of the totalizers

Four commands tell totalizers by number: `get_totalizador_cnf` and `get_prox_totalizador` answer
one, `snd_regnaofiscal`, `snd_nfiscal_nvinc` and `set_totalizador` hand one to the library. What is
handed over is the slot of the device. **Neither answer is**: `get_totalizador_cnf` gives the slot
and one, `get_prox_totalizador` the slot less one, `numeracoes_divergem`.
-/

namespace Spooler

open Foundations Packet Driver

/-! ## The functions behind the commands -/

variable {F δ : Type}

/-- `IDX_NOT_FOUND` is -1. -/
def indiceShort (idx : Option ℕ) : ℤ := idx.elim (-1) Int.ofNat

/-- The functions of the driver for totalizers, in their places of the interface. -/
def ecfTotalizadores (n : Numeric F) (bib : Biblioteca δ)
    (resto : Ecf Excp.DoDriver F (Maquina F δ)) : Ecf Excp.DoDriver F (Maquina F δ) :=
  have hext : Externa (fun _ : Maquina F δ => True) :=
    ⟨fun _ _ _ _ => trivial, fun _ _ _ => trivial, fun _ _ _ => trivial⟩
  { ecfCv0909 n bib.toDll resto with
    getTotalizadorCnf := fun tot =>
      ⟨getTotalizadorCnf bib.toDll tot >>= fun idx => pure (indiceShort idx),
        contained_bind (soSpooler_getTotalizadorCnf hext _ _).doDriver fun _ => contained_pure _⟩
    getProxTotalizador :=
      ⟨getProxTotalizador (getTotalizadorCnf bib.toDll),
        (soSpooler_getProxTotalizador (soSpooler_getTotalizadorCnf hext _)).doDriver⟩
    setTotalizador := fun descr tipo =>
      ⟨setTotalizador n bib descr tipo, (soSpooler_setTotalizador n bib hext descr tipo).doDriver⟩
    abreNfiscalNvinc := fun nomeTot valor moeda =>
      ⟨abreNfiscalNvinc n bib nomeTot valor moeda,
        (soSeCabe_abreNfiscalNvinc n bib hext nomeTot valor moeda).doDriver⟩ }

namespace EcfBroker

/-- The broker that serves with these functions. -/
def totalizadores (n : Numeric F) (bib : Biblioteca δ)
    (resto : Ecf Excp.DoDriver F (Maquina F δ)) (pid : ℕ) :
    EcfBroker Excp.DoDriver F (Maquina F δ) :=
  { mEcf := ecfTotalizadores n bib resto, num := n, pid }

/-- What comes of a request: the response, the calls issued and the machine left behind. -/
structure Servico (F δ : Type) where
  resposta : ResponsePacket
  chamadas : List Chamada
  maq : Maquina F δ

/-- Serve a request. -/
def serve (n : Numeric F) (bib : Biblioteca δ)
    (resto : Ecf Excp.DoDriver F (Maquina F (δ × List Chamada))) (pid : ℕ) (m : Maquina F δ)
    (pedido : RequestPacket) : Servico F δ :=
  let g := (exec ((totalizadores n bib.espia resto pid).trade pedido)
    (abreGuiche pedido m.comLista [])).2
  ⟨g.saida, g.ecf.chamadas, g.ecf.semLista⟩

/-- The number of a totalizer that a call hands to the library. -/
def indiceDe : Chamada → Option ℤ
  | .comando (.efetuaRecebimentoNaoFiscalMFD cidx _) => some (Str.atoi cidx)
  | .acao (.recebimentoNaoFiscal idx _ _) => some (Str.atoi idx)
  | .acao (.nomeiaTotalizadorNaoSujeitoIcmsCV0909 idx _ _) => some idx
  | _ => none

namespace Servico

/-- The numbers handed to the library. -/
def indices (s : Servico F δ) : List ℤ := s.chamadas.filterMap indiceDe

/-- The response is this number. -/
def Responde (s : Servico F δ) (i : ℤ) : Prop :=
  s.resposta.contents = [("indice".toList, [Str.intoString i])]

theorem Responde.eq {s : Servico F δ} {i j : ℤ} (hi : s.Responde i) (hj : s.Responde j) :
    i = j := by
  have h : [("indice".toList, [Str.intoString i])] = [("indice".toList, [Str.intoString j])] :=
    hi.symm.trans hj
  simpa [Str.intoString_injective.eq_iff] using h

end Servico

/-- The request asks for a command and has these parameters. -/
structure Pede (pedido : RequestPacket) (cmd : CmdIdx) (params : List (String × Str)) : Prop where
  id : CmdIdx.tagEnum pedido.id = .ok cmd
  param : ∀ p ∈ params, getParamValueByName p.1.toList pedido = .ok p.2

/-- Calls that read hand over no number. -/
theorem indices_eq {s : Servico F δ} {t : Maquina F (δ × List Chamada)}
    (h : s.chamadas = t.chamadas) : s.indices = t.atos.filterMap indiceDe := by
  rw [Servico.indices, h, Maquina.atos, List.filterMap_filter]
  congr 1
  funext c
  cases c <;> rfl

/-! ## One command -/

section Trade

variable {E : Excp → Prop} {σ α : Type} {b : EcfBroker E F σ} {pedido : RequestPacket}
  {cmd : CmdIdx}

/-- The machine after `trade` is the one after the command. -/
theorem ecf_trade (hcmd : CmdIdx.tagEnum pedido.id = .ok cmd) (g : Guiche σ) :
    (exec (b.trade pedido) g).2.ecf = (exec (b.despacha pedido cmd) (prepara pedido g)).2.ecf := by
  simp only [trade, exec_tryCatch, exec_bind, exec_modify, exec_ofExcept, hcmd]
  rcases exec (b.despacha pedido cmd) (prepara pedido g) with ⟨e | u, t⟩
  · exact ecf_recusa e t
  · rfl

theorem exec_trade_of_ok (hcmd : CmdIdx.tagEnum pedido.id = .ok cmd) {g t : Guiche σ}
    (h : exec (b.despacha pedido cmd) (prepara pedido g) = (.ok (), t)) :
    exec (b.trade pedido) g = (.ok (), t) := by
  simp only [trade, exec_tryCatch, exec_bind, exec_modify, exec_ofExcept, hcmd, h]

theorem exec_responde {key : String} {metodo : Metodo E σ α} {texto : α → Str} {g : Guiche σ}
    {v : α}
    {t : σ} (h : exec metodo.run g.ecf = (.ok v, t)) :
    exec (responde key metodo texto) g =
      (.ok (), { g with ecf := t, saida := g.saida.addMsg key.toList (texto v) }) := by
  simp only [responde, chama, exec_bind, exec_zoom, h, addParam, exec_modify]

/-- A parameter with a default is never missing. -/
theorem exists_opcional (σ : Type) (name : String) (padrao : Str) (pedido : RequestPacket) :
    ∃ val, ∀ g : Guiche σ, exec (opcional name padrao pedido) g = (.ok val, g) := by
  cases hval : getParamValueByName name.toList pedido with
  | ok val =>
    exact ⟨val, fun g => by simp only [opcional, parametro, exec_tryCatch, exec_ofExcept, hval]⟩
  | error e =>
    obtain ⟨what, rfl⟩ := faltaParam_of_getParamValueByName hval
    exact ⟨padrao, fun g => by
      simp only [opcional, parametro, exec_tryCatch, exec_ofExcept, hval]; rfl⟩

end Trade

section Comandos

variable {n : Numeric F} (bib : Biblioteca δ)
  (resto : Ecf Excp.DoDriver F (Maquina F (δ × List Chamada)))
  (pid : ℕ) {m : Maquina F δ} {pedido : RequestPacket} {d : Str}

/-- A number answered by a method without parameters, or with one, read from the request. -/
theorem serve_responde {cmd : CmdIdx}
    {metodo : Metodo Excp.DoDriver (Maquina F (δ × List Chamada)) ℤ} {texto : ℤ → Str}
    (hcmd : CmdIdx.tagEnum pedido.id = .ok cmd)
    (hdesp : ∀ g, exec ((totalizadores n bib.espia resto pid).despacha pedido cmd) g =
      exec (responde "indice" metodo texto) g)
    {v : ℤ} {t : Maquina F (δ × List Chamada)} (h : exec metodo.run m.comLista = (.ok v, t)) :
    (serve n bib resto pid m pedido).resposta.contents = [("indice".toList, [texto v])] ∧
      (serve n bib resto pid m pedido).maq = t.semLista := by
  have hx := exec_trade_of_ok hcmd (g := abreGuiche pedido m.comLista [])
    ((hdesp _).trans (exec_responde h))
  unfold serve
  rw [hx]
  exact ⟨rfl, rfl⟩

theorem serve_getTotalizadorCnf {idx : Option ℕ} {t : Maquina F (δ × List Chamada)}
    (hp : Pede pedido .getTotalizadorCnf [("descricao", d)])
    (h : exec (Driver.getTotalizadorCnf bib.espia.toDll d) m.comLista = (.ok idx, t)) :
    (serve n bib resto pid m pedido).Responde (indiceShort idx + 1) ∧
      (serve n bib resto pid m pedido).maq = t.semLista := by
  have hd : getParamValueByName "descricao".toList pedido = .ok d :=
    hp.param ("descricao", d) List.mem_cons_self
  have hget : exec ((ecfTotalizadores n bib.espia resto).getTotalizadorCnf d).run m.comLista =
      (.ok (indiceShort idx), t) := exec_bind_ok h
  have hdesp : ∀ g, exec ((totalizadores n bib.espia resto pid).despacha pedido
        .getTotalizadorCnf) g =
      exec (responde "indice" ((ecfTotalizadores n bib.espia resto).getTotalizadorCnf d)
        fun indice => Str.intoString (indice + 1)) g := by
    intro g
    show exec (getTotalizadorCnf _ pedido) g = _
    simp only [getTotalizadorCnf, parametro, exec_bind, exec_ofExcept, hd]
    rfl
  exact serve_responde bib resto pid hp.id hdesp hget

variable {bib} in
/-- A totalizer that is found is answered under the number behind that of its slot. -/
theorem serve_achado (hg : bib.GuardaNomes) {idx : ℕ}
    (hp : Pede pedido .getTotalizadorCnf [("descricao", d)])
    (h : achado m.drv.totCnf (bib.quadro m.dev) d = some idx) :
    (serve n bib resto pid m pedido).Responde (idx + 1) := by
  obtain ⟨t, ht, -, -⟩ := exec_getTotalizadorCnf_espia (m := m.comLista) hg d
  have hx : exec (Driver.getTotalizadorCnf bib.espia.toDll d) m.comLista = (.ok (some idx), t) :=
    ht.trans (by rw [← h]; rfl)
  exact (serve_getTotalizadorCnf bib resto pid hp hx).1

theorem serve_getProxTotalizador {i : ℤ} {t : Maquina F (δ × List Chamada)}
    (hp : Pede pedido .getProxTotalizador [])
    (h : exec (Driver.getProxTotalizador (Driver.getTotalizadorCnf bib.espia.toDll)) m.comLista =
      (.ok i, t)) :
    (serve n bib resto pid m pedido).Responde i ∧
      (serve n bib resto pid m pedido).maq = t.semLista := by
  have hdesp : ∀ g, exec ((totalizadores n bib.espia resto pid).despacha pedido
        .getProxTotalizador) g =
      exec (responde "indice" (ecfTotalizadores n bib.espia resto).getProxTotalizador
        Str.intoString) g := fun _ => rfl
  exact serve_responde bib resto pid hp.id hdesp h

/-- The calls of a request that does no more than run a function of the driver. -/
theorem chamadas_serve {cmd : CmdIdx} {x : Prog F (δ × List Chamada) Unit}
    (hcmd : CmdIdx.tagEnum pedido.id = .ok cmd)
    (hdesp : ∀ g, exec ((totalizadores n bib.espia resto pid).despacha pedido cmd) g =
      exec (chama x) g) :
    (serve n bib resto pid m pedido).chamadas = (exec x m.comLista).2.chamadas ∧
      (serve n bib resto pid m pedido).maq = (exec x m.comLista).2.semLista := by
  have h := ecf_trade (b := totalizadores n bib.espia resto pid) hcmd
    (abreGuiche pedido m.comLista [])
  rw [hdesp] at h
  have he : (exec (chama x) (prepara pedido (abreGuiche pedido m.comLista []))).2.ecf =
      (exec x m.comLista).2 := rfl
  have hecf := h.trans he
  exact ⟨congrArg Maquina.chamadas hecf, congrArg Maquina.semLista hecf⟩

variable {v moeda : Str}

theorem serve_sndRegnaofiscal (hp : Pede pedido .sndRegnaofiscal [("indice", d), ("valor", v)]) :
    (serve n bib resto pid m pedido).chamadas =
      (exec (regNaoFiscal n bib.espia.toDll d (n.atof v)) m.comLista).2.chamadas := by
  refine (chamadas_serve bib resto pid hp.id fun g => ?_).1
  show exec (sndRegnaofiscal _ pedido) g = _
  simp only [sndRegnaofiscal, parametro, exec_bind, exec_ofExcept,
    hp.param ("indice", d) (by simp), hp.param ("valor", v) (by simp)]
  rfl

theorem serve_sndNfiscalNvinc
    (hp : Pede pedido .sndNfiscalNvinc [("codigo", d), ("valor", v), ("moeda", moeda)]) :
    (serve n bib resto pid m pedido).chamadas =
      (exec (abreNfiscalNvinc n bib.espia d (n.atof v) moeda) m.comLista).2.chamadas := by
  refine (chamadas_serve bib resto pid hp.id fun g => ?_).1
  show exec (sndNfiscalNvinc _ pedido) g = _
  simp only [sndNfiscalNvinc, parametro, exec_bind, exec_ofExcept,
    hp.param ("codigo", d) (by simp), hp.param ("valor", v) (by simp),
    hp.param ("moeda", moeda) (by simp)]
  rfl

theorem serve_setTotalizador (hp : Pede pedido .setTotalizador [("valor", d)]) : ∃ tipo,
    (serve n bib resto pid m pedido).chamadas =
        (exec (Driver.setTotalizador n bib.espia d tipo) m.comLista).2.chamadas ∧
      (serve n bib resto pid m pedido).maq =
        (exec (Driver.setTotalizador n bib.espia d tipo) m.comLista).2.semLista := by
  obtain ⟨tipo, htipo⟩ := exists_opcional (Maquina F (δ × List Chamada)) "tipo" ['E'] pedido
  refine ⟨tipo, chamadas_serve bib resto pid hp.id fun g => ?_⟩
  show exec (setTotalizador _ pedido) g = _
  simp only [setTotalizador, parametro, exec_bind, exec_ofExcept,
    hp.param ("valor", d) (by simp), htipo]
  rfl

end Comandos

/-! ## The numbers -/

section Numeros

variable (n : Numeric ℚ) {bib : Biblioteca δ}
  (resto : Ecf Excp.DoDriver ℚ (Maquina ℚ (δ × List Chamada)))
  (pid : ℕ) {m : Maquina ℚ δ}

/-- The text of a slot. -/
def textoIndice (idx : ℕ) : Str := comVirgula (sprintfF true 2 0 (roundBits 24 (idx : ℚ)))

/-- The text of a slot is its number. -/
theorem atoi_textoIndice {idx : ℕ} (h : idx ≤ totalTotcnf) : Str.atoi (textoIndice idx) = idx := by
  have hnum : ∀ k ≤ totalTotcnf, Str.atoi (textoIndice k) = k := by decide +kernel
  exact hnum idx h

theorem sprintf_indice (idx : ℕ) :
    (Numeric.exato n).sprintf "%02.0f" ((Numeric.exato n).ofInt idx) =
      some (sprintfF true 2 0 (roundBits 24 (idx : ℚ))) := by
  have hof : (Numeric.exato n).ofInt idx = roundBits 24 (idx : ℚ) := by
    simp [Numeric.exato]
  rw [hof, sprintf_exato n _ formato_indice]

theorem exec_textoIndice (idx : ℕ) {σ : Type} (t : σ) :
    exec (formatInteiro (.exato n) idx "%02.0f" : Exec Excp σ Str) t =
      (.ok (textoIndice idx), t) :=
  exec_formatInteiro_some (sprintf_indice n idx) t

/-- What comes of the text of an amount. -/
theorem exec_texto (valor : ℚ) {σ : Type} (t : σ) :
    exec (formatValor (.exato n) valor "%11.2f" : Exec Excp σ Str) t =
      (if transborda (.exato n) valor "%11.2f" then .error .overrun
        else .ok (comVirgula (sprintfF false 11 2 valor)), t) := by
  rw [formatValor, sprintf_exato n valor formato_valor]
  split_ifs <;> rfl

variable (bib m)

/-- The totalizer has the number `get_totalizador_cnf` answers in the calls of the library. -/
def UmaNumeracao (pc pr pa : RequestPacket) : Prop :=
  ∃ i : ℤ, (serve n bib resto pid m pc).Responde i ∧
    (serve n bib resto pid m pr).indices = [i] ∧ (serve n bib resto pid m pa).indices = [i]

/-- The slot `get_prox_totalizador` answers is the one a new totalizer is given, and the one it is
found in. -/
def UmaVaga (pp ps pc : RequestPacket) : Prop :=
  ∃ i : ℤ, (serve n bib resto pid m pp).Responde i ∧
    (serve n bib resto pid (serve n bib resto pid m pp).maq ps).indices = [i] ∧
    (serve n bib resto pid
      (serve n bib resto pid (serve n bib resto pid m pp).maq ps).maq pc).Responde i

variable {bib m}

/-- The table kept is that of the device, if there is one. -/
def Coerente (bib : Biblioteca δ) (m : Maquina ℚ δ) : Prop :=
  m.drv.totCnf = [] ∨ m.drv.totCnf = (bib.quadro m.dev).map guardado

variable {d v w moeda : Str} {pc pr pa pp ps : RequestPacket}

/-- **A totalizer of the device is answered under the number behind that of the calls**, if their
amounts are written. -/
theorem indices_registrado (hg : bib.GuardaNomes) (hf : m.drv.fake = false) (hm : Coerente bib m)
    (hd : ∃ nome ∈ bib.quadro m.dev, nome ≠ [] ∧ Str.strIequals (d.take sizeTotcnf) nome = true)
    (hpc : Pede pc .getTotalizadorCnf [("descricao", d)])
    (hpr : Pede pr .sndRegnaofiscal [("indice", d), ("valor", v)])
    (hpa : Pede pa .sndNfiscalNvinc [("codigo", d), ("valor", w), ("moeda", moeda)]) :
    ∃ idx : ℕ, (serve (.exato n) bib resto pid m pc).Responde (idx + 1) ∧
      (serve (.exato n) bib resto pid m pa).indices =
        (if transborda (.exato n) ((Numeric.exato n).atof w) "%11.2f" then [] else [(idx : ℤ)]) ∧
      ((m.drv.specific.lookup specCnfSaida).isSome →
        (serve (.exato n) bib resto pid m pr).indices =
          if transborda (.exato n) ((Numeric.exato n).atof v) "%11.2f" then []
          else [(idx : ℤ)]) := by
  obtain ⟨nome, hmem, hne, heq⟩ := hd
  obtain ⟨idx, hidx⟩ := exists_achado m.drv.totCnf hmem hne heq
  have hle : idx ≤ totalTotcnf := by simpa using achado_le hm hidx
  have hatoi := atoi_textoIndice hle
  refine ⟨idx, serve_achado resto pid hg hpc hidx, ?_, fun hkey => ?_⟩
  · rw [indices_eq (serve_sndNfiscalNvinc bib resto pid hpa), atos_abreNfiscalNvinc hg hf hidx
      (exec_textoIndice n idx) (exec_texto n _) moeda]
    cases transborda (.exato n) ((Numeric.exato n).atof w) "%11.2f" <;>
      simp [Maquina.atos, Maquina.chamadas, Maquina.comLista, indiceDe, hatoi, Except.toOption]
  · obtain ⟨cnfSaida, hs⟩ := Option.isSome_iff_exists.1 hkey
    rw [indices_eq (serve_sndRegnaofiscal bib resto pid hpr), atos_regNaoFiscal hg hf hs hidx
      (exec_textoIndice n idx) (exec_texto n _)]
    cases transborda (.exato n) ((Numeric.exato n).atof v) "%11.2f" <;>
      simp [Maquina.atos, Maquina.chamadas, Maquina.comLista, indiceDe, hatoi, Except.toOption]

/-- The index handed over, if any. -/
theorem eq_of_indices {c : Bool} {l : List ℤ} {i j : ℤ} (hl : l = if c then [] else [j])
    (hi : l = [i]) : i = j := by
  cases c with
  | true => cases hl.symm.trans hi
  | false => simpa using hi.symm.trans hl

theorem idxElement_nil_of_coerente (hm : Coerente bib m) :
    idxElement [] m.drv.totCnf = none := by
  obtain hm | hm := hm
  · rw [hm]
    rfl
  · rw [hm]
    exact idxElement_nil bib.toDll m.dev

/-- What `get_prox_totalizador` answers, and the machine it leaves behind. -/
theorem serve_vaga (hg : bib.GuardaNomes) (hm : Coerente bib m) {p : ℕ}
    (hp : vaga (bib.quadro m.dev) = some p) (hpp : Pede pp .getProxTotalizador []) :
    (serve (.exato n) bib resto pid m pp).Responde p ∧ ∃ x,
      (serve (.exato n) bib resto pid m pp).maq =
        m.comQuadro x (bib.aposQuadro m.dev) ((bib.quadro m.dev).map guardado) := by
  have hnil := idxElement_nil_of_coerente hm
  obtain ⟨x, hx⟩ := exec_getProxTotalizador (m := m.comLista) hg.espia hnil hp
  obtain ⟨hresp, hmaq⟩ := serve_getProxTotalizador (n := .exato n) bib resto pid hpp hx
  exact ⟨hresp, x, hmaq⟩

/-- **The slot programmed, if any, is the one behind the position answered.** -/
theorem indices_vaga (hg : bib.GuardaNomes) (hf : m.drv.fake = false) (hm : Coerente bib m)
    (hvaga : [] ∈ bib.quadro m.dev) (hpp : Pede pp .getProxTotalizador [])
    (hps : Pede ps .setTotalizador [("valor", d)]) :
    ∃ p : ℕ, (serve (.exato n) bib resto pid m pp).Responde p ∧
      ∀ i ∈ (serve (.exato n) bib resto pid (serve (.exato n) bib resto pid m pp).maq ps).indices,
        i = p + 1 := by
  obtain ⟨p, hp⟩ := vaga_isSome hvaga
  obtain ⟨hresp, x, hmaq⟩ := serve_vaga n resto pid hg hm hp hpp
  refine ⟨p, hresp, ?_⟩
  rw [hmaq]
  generalize hm₁ : m.comQuadro x _ _ = m₁
  have hf₁ : m₁.comLista.drv.fake = false := hm₁ ▸ hf
  have hp₁ : vaga (bib.quadro m₁.comLista.dev.1) = some p := by
    rw [← hm₁, ← hp]
    exact congrArg vaga (hg.quadro_apos m.dev)
  obtain ⟨tipo, hcham, -⟩ := serve_setTotalizador (n := .exato n) bib resto pid (m := m₁) hps
  rw [indices_eq hcham]
  obtain h | h := atos_setTotalizador (n := .exato n) hg hf₁ hp₁ d tipo
  · rw [h]
    simp [Maquina.atos, Maquina.chamadas, Maquina.comLista]
  · rw [h]
    simp [Maquina.atos, Maquina.chamadas, Maquina.comLista, indiceDe]

/-- **A new name goes to the slot behind the position answered, and is answered under the number
behind that.** -/
theorem indices_novo (hg : bib.GuardaNomes) (hf : m.drv.fake = false) (hm : Coerente bib m)
    (hvaga : [] ∈ bib.quadro m.dev) (hd : Novo d (bib.quadro m.dev))
    (hmarca : Str.strIequals (d.take sizeTotcnf) txtAvailable = false)
    (hne : Str.trim (d.take sizeTotcnf) ≠ []) (hnul : '\x00' ∉ d)
    (hpp : Pede pp .getProxTotalizador []) (hps : Pede ps .setTotalizador [("valor", d)])
    (hpc : Pede pc .getTotalizadorCnf [("descricao", d)]) :
    ∃ p : ℕ, (serve (.exato n) bib resto pid m pp).Responde p ∧
      (serve (.exato n) bib resto pid (serve (.exato n) bib resto pid m pp).maq ps).indices =
        [(p : ℤ) + 1] ∧
      (serve (.exato n) bib resto pid (serve (.exato n) bib resto pid
        (serve (.exato n) bib resto pid m pp).maq ps).maq pc).Responde (p + 2) := by
  obtain ⟨p, hp⟩ := vaga_isSome hvaga
  obtain ⟨hresp, x, hmaq⟩ := serve_vaga n resto pid hg hm hp hpp
  refine ⟨p, hresp, ?_⟩
  rw [hmaq]
  have hq := hg.quadro_apos m.dev
  obtain ⟨tipo, hcham, hmaq₂⟩ := serve_setTotalizador (n := .exato n) bib resto pid
    (m := m.comQuadro x (bib.aposQuadro m.dev)
      ((bib.quadro m.dev).map guardado)) hps
  have hlido : lido (Str.trim (d.take sizeTotcnf)) ≠ [] := by rw [lido_trim hnul]; exact hne
  obtain ⟨y, hy⟩ := exec_setTotalizador (n := .exato n) (p := p)
    (m := (m.comQuadro x (bib.aposQuadro m.dev) ((bib.quadro m.dev).map guardado)).comLista)
    hg.espia (idxElement_of_novo hd hmarca) (posicao_of_novo (by rw [← hq] at hd; exact hd))
    (by rw [← hp, ← hq]; rfl) hlido hf (sprintf_indice n (p + 1)) tipo
  have hlt : p < (bib.quadro m.dev).length := lt_of_vaga hp
  have hquadro := quadro_aposNomeia hg (by simpa using hlt) hlido tipo
    (bib.aposQuadro (bib.aposQuadro (bib.aposQuadro m.dev)))
  rw [hg.quadro_apos, hg.quadro_apos, hg.quadro_apos] at hquadro
  refine ⟨?_, ?_⟩
  · rw [indices_eq hcham, hy]
    simp [Maquina.atos, Maquina.chamadas, Maquina.comQuadro, Maquina.comLista, aposNomeia,
      Dll.aposQuadro, Biblioteca.espia, Dll.espia, Chamada.soLe, indiceDe]
  · rw [hmaq₂, hy]
    have hpos := posicao_set hd hlt hnul hne
    rw [← hquadro] at hpos
    have hach : achado [] (bib.quadro (aposNomeia bib p d tipo
        (bib.aposQuadro (bib.aposQuadro (bib.aposQuadro m.dev))))) d = some (p + 1) := hpos
    have h := serve_achado (n := .exato n) resto pid hg hpc
      (m := ((m.comQuadro x (bib.aposQuadro m.dev) ((bib.quadro m.dev).map guardado)).comQuadro y
        (aposNomeia bib p d tipo (bib.aposQuadro (bib.aposQuadro (bib.aposQuadro m.dev)))) [])) hach
    rw [show (p : ℤ) + 2 = (p + 1 : ℕ) + 1 by push_cast; ring]
    exact h

/-- **Neither number answered is that of the calls of the library.** `indices_registrado` and
`indices_novo` say by how much they are off. -/
theorem numeracoes_divergem (hg : bib.GuardaNomes) (hf : m.drv.fake = false)
    (hm : Coerente bib m) (hpc : Pede pc .getTotalizadorCnf [("descricao", d)])
    (hpr : Pede pr .sndRegnaofiscal [("indice", d), ("valor", v)])
    (hpa : Pede pa .sndNfiscalNvinc [("codigo", d), ("valor", w), ("moeda", moeda)])
    (hpp : Pede pp .getProxTotalizador []) (hps : Pede ps .setTotalizador [("valor", d)]) :
    ((∃ nome ∈ bib.quadro m.dev, nome ≠ [] ∧ Str.strIequals (d.take sizeTotcnf) nome = true) →
        ¬ UmaNumeracao (.exato n) bib resto pid m pc pr pa) ∧
      ([] ∈ bib.quadro m.dev → ¬ UmaVaga (.exato n) bib resto pid m pp ps pc) := by
  constructor
  · rintro hd ⟨i, hi, -, hpassa⟩
    obtain ⟨idx, hresp, hind, -⟩ := indices_registrado n resto pid
      hg hf hm hd hpc hpr hpa
    have h₁ : i = idx + 1 := hi.eq hresp
    have h₂ : i = idx := eq_of_indices hind hpassa
    omega
  · rintro hvaga ⟨i, hi, hpassa, -⟩
    obtain ⟨p, hresp, hind⟩ := indices_vaga n resto pid hg hf hm hvaga
      hpp hps
    have h₁ : i = p := hi.eq hresp
    have h₂ : i = p + 1 := hind i (by rw [hpassa]; exact List.mem_singleton_self i)
    omega

end Numeros

end EcfBroker

/-! ## A device with one totalizer -/

section Prateleira

/-- A name in its record: blanks behind it, and a comma. -/
def registroTotcnf (nome : Str) : Str :=
  (nome.take 19 ++ List.replicate (19 - nome.length) ' ') ++ [',']

theorem length_registroTotcnf (nome : Str) : (registroTotcnf nome).length = 20 := by
  simp only [registroTotcnf, List.length_append, List.length_take, List.length_replicate,
    List.length_singleton]
  omega

/-- A device that accepts everything and keeps the names of its totalizers. -/
def prateleira : Biblioteca (ℕ → Str) where
  comando _ d := (bematechOk, d)
  retornoImpressoraMFD d := ((bematechOk, ⟨6, 0, 0, 0⟩), d)
  verificaFormasPagamentoMFD d := ((bematechOk, []), d)
  verificaTotalizadoresNaoFiscaisMFD d :=
    ((bematechOk, (List.range totalTotcnf).flatMap fun i => registroTotcnf (d i)), d)
  dataHoraReducao d := ((bematechOk, [], []), d)
  dadosUltimaReducaoMFD d := ((bematechOk, []), d)
  acao a d := (bematechOk,
    match a with
    | .nomeiaTotalizadorNaoSujeitoIcmsCV0909 idx nome _ => Function.update d (idx - 1).toNat nome
    | _ => d)
  pergunta _ d := ((bematechOk, []), d)
  extrato _ d := (bematechOk, d)
  verificaEstadoImpressoraMFD d := ((bematechOk, ⟨6, 0, 0, 0⟩), d)
  dataHoraImpressora d := ((bematechOk, [], []), d)
  marcaModeloTipoImpressoraMFD d := ((bematechOk, [], [], []), d)
  flagsFiscais d := ((bematechOk, 0), d)
  statusEstendidoMFD d := ((bematechOk, 0), d)
  found _ _ := false
  randomName base d := (base, d)
  copyFile _ _ d := d

/-- The `i`-th of records of one length. -/
theorem take_drop_flatMap {f : ℕ → Str} {c k i n : ℕ} (hc : ∀ j, (f j).length = c) (hk : k ≤ c)
    (hi : i < n) : (((List.range n).flatMap f).drop (i * c)).take k = (f i).take k := by
  induction n with
  | zero => omega
  | succ n ih =>
    have hlen : ((List.range n).flatMap f).length = n * c := by
      simp [List.length_flatMap, hc]
    rw [List.range_succ, List.flatMap_append, List.flatMap_singleton, List.drop_append, hlen]
    obtain hlt | rfl := Nat.lt_succ_iff_lt_or_eq.1 hi
    · have hle : i * c + c ≤ n * c := by
        rw [← Nat.succ_mul]
        exact Nat.mul_le_mul_right c hlt
      have hlong : k ≤ (((List.range n).flatMap f).drop (i * c)).length := by
        rw [List.length_drop, hlen]
        omega
      rw [List.take_append_of_le_length hlong, ih hlt]
    · rw [Nat.sub_self, List.drop_zero, List.drop_eq_nil_of_le hlen.le, List.nil_append]

theorem trim_append_replicate (s : Str) (k : ℕ) :
    Str.trim (s ++ List.replicate k ' ') = Str.trim s := by
  have hr : Str.rtrim (s ++ List.replicate k ' ') = Str.rtrim s := by
    rw [Str.rtrim, List.reverse_append, List.reverse_replicate, List.dropWhile_append_of_pos]
    · rfl
    · intro c hc
      rw [List.eq_of_mem_replicate hc]
      rfl
  rw [Str.trim, hr, Str.trim]

theorem take_registroTotcnf (nome : Str) : (registroTotcnf nome).take sizeTotcnf =
    nome.take sizeTotcnf ++ List.replicate (sizeTotcnf - nome.length) ' ' := by
  have hlen : sizeTotcnf ≤ (nome.take 19 ++ List.replicate (19 - nome.length) ' ').length := by
    simp only [List.length_append, List.length_take, List.length_replicate, sizeTotcnf]
    omega
  have hmin : min sizeTotcnf 19 = sizeTotcnf := rfl
  rw [registroTotcnf, List.take_append_of_le_length hlen, List.take_append, List.take_take, hmin,
    List.length_take, List.take_replicate]
  congr 2
  simp only [sizeTotcnf]
  omega

/-- What the driver reads of a record is what it would read of the name. -/
theorem trim_registroTotcnf (nome : Str) :
    Str.trim (Str.cstr ((registroTotcnf nome).take sizeTotcnf)) = lido nome := by
  rw [take_registroTotcnf, lido]
  generalize nome.take sizeTotcnf = s
  rw [Str.cstr, List.takeWhile_append]
  split
  · rename_i h
    have hs : s.takeWhile (· ≠ '\x00') = s := (List.takeWhile_prefix _).eq_of_length h
    have hb : (List.replicate (sizeTotcnf - nome.length) ' ').takeWhile (· ≠ '\x00') =
        List.replicate (sizeTotcnf - nome.length) ' ' :=
      List.takeWhile_eq_self_iff.2 fun c hc => by rw [List.eq_of_mem_replicate hc]; rfl
    rw [hb, trim_append_replicate, Str.cstr, hs]
  · rfl

theorem quadro_prateleira (d : ℕ → Str) :
    prateleira.quadro d = (List.range totalTotcnf).map fun i => lido (d i) := by
  refine List.map_congr_left fun i hi => ?_
  rw [← trim_registroTotcnf]
  exact congrArg (fun t => Str.trim (Str.cstr t))
    (take_drop_flatMap (fun j => length_registroTotcnf (d j)) (by decide) (List.mem_range.1 hi))

theorem guardaNomes_prateleira : prateleira.GuardaNomes where
  retorno _ := rfl
  quadro_retorno _ := rfl
  verifica _ := rfl
  quadro_verifica _ := rfl
  nomeia _ _ _ _ _ _ := rfl
  quadro_nomeia k hk nome tipo d _ := by
    have hk' : (((k + 1 : ℕ) : ℤ) - 1).toNat = k := by omega
    show prateleira.quadro (Function.update d (((k + 1 : ℕ) : ℤ) - 1).toNat nome) = _
    rw [hk', quadro_prateleira, quadro_prateleira]
    refine List.ext_getElem (by simp) fun i hi _ => ?_
    simp only [List.getElem_map, List.getElem_range, List.getElem_set]
    by_cases h : k = i
    · rw [if_pos h, h, Function.update_self]
    · rw [if_neg h, Function.update_of_ne (Ne.symm h)]

namespace EcfBroker

/-- A request with parameters. -/
def pedidoDe (id : String) (params : List (String × Str)) : RequestPacket :=
  params.foldl (fun p q => p.addParamKeyVal q.1.toList q.2)
    { id := id.toList, type := some .tpExecut }

/-- A machine on a device whose first totalizer is `DESPESAS`. -/
def balcao : Maquina ℚ (ℕ → Str) where
  drv := { specific := [(specCnfSaida, "#DESPESAS#".toList)] }
  dev i := if i = 0 then "DESPESAS".toList else []

theorem mem_quadro_balcao : "DESPESAS".toList ∈ prateleira.quadro balcao.dev := by
  decide

theorem nil_mem_quadro_balcao : [] ∈ prateleira.quadro balcao.dev := by
  decide

/-- The requests about `DESPESAS`, and about a totalizer that is new. -/
def indiceDespesas : RequestPacket :=
  pedidoDe "get_totalizador_cnf" [("descricao", "DESPESAS".toList)]

def registraDespesas : RequestPacket :=
  pedidoDe "snd_regnaofiscal" [("indice", "DESPESAS".toList), ("valor", "1.00".toList)]

def recebeDespesas : RequestPacket :=
  pedidoDe "snd_nfiscal_nvinc" [("codigo", "DESPESAS".toList), ("valor", "1.00".toList),
    ("moeda", "Dinheiro".toList)]

def proximaVaga : RequestPacket := pedidoDe "get_prox_totalizador" []

def nomeiaDespesas : RequestPacket :=
  pedidoDe "set_totalizador" [("valor", "DESPESAS".toList)]

theorem pede_indiceDespesas :
    Pede indiceDespesas .getTotalizadorCnf [("descricao", "DESPESAS".toList)] :=
  ⟨CmdIdx.tagEnum_of_filter (by simp [CmdIdx.cmdId]) nofun, by decide⟩

theorem pede_registraDespesas : Pede registraDespesas .sndRegnaofiscal
    [("indice", "DESPESAS".toList), ("valor", "1.00".toList)] :=
  ⟨CmdIdx.tagEnum_of_filter (by simp [CmdIdx.cmdId]) nofun, by decide⟩

theorem pede_recebeDespesas : Pede recebeDespesas .sndNfiscalNvinc
    [("codigo", "DESPESAS".toList), ("valor", "1.00".toList), ("moeda", "Dinheiro".toList)] :=
  ⟨CmdIdx.tagEnum_of_filter (by simp [CmdIdx.cmdId]) nofun, by decide⟩

theorem pede_proximaVaga : Pede proximaVaga .getProxTotalizador [] :=
  ⟨CmdIdx.tagEnum_of_filter (by simp [CmdIdx.cmdId]) nofun, by decide⟩

theorem pede_nomeiaDespesas :
    Pede nomeiaDespesas .setTotalizador [("valor", "DESPESAS".toList)] :=
  ⟨CmdIdx.tagEnum_of_filter (by simp [CmdIdx.cmdId]) nofun, by decide⟩

/-- Asked for `DESPESAS`, the broker answers 2; the library is handed 1. -/
theorem despesas_sem_numero :
    ¬ UmaNumeracao (.exato conversoes) prateleira default 1 balcao indiceDespesas
      registraDespesas recebeDespesas := by
  rintro ⟨i, hi, -, hpassa⟩
  obtain ⟨idx, hresp, hind, -⟩ := indices_registrado conversoes default 1
    guardaNomes_prateleira rfl (m := balcao) (.inl rfl)
    ⟨_, mem_quadro_balcao, by decide, by decide⟩ pede_indiceDespesas
    pede_registraDespesas pede_recebeDespesas
  have h₁ : i = idx + 1 := hi.eq hresp
  have h₂ : i = idx := eq_of_indices hind hpassa
  omega

/-- On that device neither number is right. -/
theorem numeracoes_divergem_balcao :
    ¬ UmaNumeracao (.exato conversoes) prateleira default 1 balcao indiceDespesas
        registraDespesas recebeDespesas ∧
      ¬ UmaVaga (.exato conversoes) prateleira default 1 balcao proximaVaga nomeiaDespesas
        indiceDespesas :=
  have h := numeracoes_divergem conversoes default 1
    guardaNomes_prateleira rfl (m := balcao) (.inl rfl) pede_indiceDespesas
    pede_registraDespesas pede_recebeDespesas pede_proximaVaga pede_nomeiaDespesas
  ⟨h.1 ⟨_, mem_quadro_balcao, by decide, by decide⟩, h.2 nil_mem_quadro_balcao⟩

end EcfBroker

end Prateleira

end Spooler
